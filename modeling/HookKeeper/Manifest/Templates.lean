/-!
# The templates that come with the operator

One template for the Deployment of the webhook and one for its registration,
each as its lines.
-/

namespace HookKeeper.Manifest

/-- The characters of lines, each with a line break at its end. -/
def charsOfLines (lines : List String) : List Char :=
  lines.flatMap fun line => line.toList ++ ['\n']

def deploymentLines : List String := [
  "apiVersion: apps/v1",
  "kind: Deployment",
  "metadata:",
  "  name: csi-snapshot-webhook",
  "  namespace: openshift-cluster-storage-operator",
  "  labels:",
  "    app: csi-snapshot-webhook",
  "spec:",
  "  replicas: 1",
  "  selector:",
  "    matchLabels:",
  "      app: csi-snapshot-webhook",
  "  strategy:",
  "    type: RollingUpdate",
  "    rollingUpdate:",
  "      maxUnavailable: 1",
  "      maxSurge: 0",
  "  template:",
  "    metadata:",
  "      labels:",
  "        app: csi-snapshot-webhook",
  "    spec:",
  "      serviceAccountName: csi-snapshot-webhook",
  "      priorityClassName: system-cluster-critical",
  "      containers:",
  "        - name: webhook",
  "          image: $\x7bWEBHOOK_IMAGE\x7d",
  "          args:",
  "            - --tls-cert-file=/etc/snapshot-validation-webhook/certs/tls.crt",
  "            - --tls-private-key-file=/etc/snapshot-validation-webhook/certs/tls.key",
  "            - --v=$\x7bLOG_LEVEL\x7d",
  "            - --port=8443",
  "          ports:",
  "            - name: webhook",
  "              containerPort: 8443",
  "          resources:",
  "            requests:",
  "              cpu: 10m",
  "              memory: 20Mi",
  "          volumeMounts:",
  "            - name: certs",
  "              mountPath: /etc/snapshot-validation-webhook/certs",
  "              readOnly: true",
  "      nodeSelector:",
  "        node-role.kubernetes.io/master: \"\"",
  "      tolerations:",
  "        - key: node-role.kubernetes.io/master",
  "          operator: Exists",
  "          effect: NoSchedule",
  "      affinity:",
  "        podAntiAffinity:",
  "          preferredDuringSchedulingIgnoredDuringExecution:",
  "            - weight: 100",
  "              podAffinityTerm:",
  "                labelSelector:",
  "                  matchLabels:",
  "                    app: csi-snapshot-webhook",
  "                topologyKey: kubernetes.io/hostname",
  "      volumes:",
  "        - name: certs",
  "          secret:",
  "            secretName: csi-snapshot-webhook-secret"]

def registrationLines : List String := [
  "apiVersion: admissionregistration.k8s.io/v1",
  "kind: ValidatingWebhookConfiguration",
  "metadata:",
  "  name: snapshot.storage.k8s.io",
  "  labels:",
  "    app: csi-snapshot-webhook",
  "  annotations:",
  "    service.beta.openshift.io/inject-cabundle: \"true\"",
  "webhooks:",
  "  - name: volumesnapshotclasses.snapshot.storage.k8s.io",
  "    clientConfig:",
  "      service:",
  "        name: csi-snapshot-webhook",
  "        namespace: openshift-cluster-storage-operator",
  "        path: /volumesnapshot",
  "    rules:",
  "      - operations: [\"CREATE\", \"UPDATE\"]",
  "        apiGroups: [\"snapshot.storage.k8s.io\"]",
  "        apiVersions: [\"v1\", \"v1beta1\"]",
  "        resources: [\"volumesnapshots\", \"volumesnapshotcontents\", \"volumesnapshotclasses\"]",
  "        scope: \"*\"",
  "    sideEffects: None",
  "    failurePolicy: Ignore",
  "    admissionReviewVersions:",
  "      - v1",
  "      - v1beta1"]

/-- The templates that a cycle renders its objects from. -/
structure Templates where
  deployment : String := String.ofList (charsOfLines deploymentLines)
  registration : String := String.ofList (charsOfLines registrationLines)
  deriving Repr

end HookKeeper.Manifest
