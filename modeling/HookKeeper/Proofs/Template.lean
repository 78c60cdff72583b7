import HookKeeper.Manifest.Rendering
import HookKeeper.Proofs.Substitution
import HookKeeper.Proofs.ValueLine

/-!
# The template of the Deployment

The text of the template is taken here as lines, of which one ends with the
image and one with the verbosity.  The same template is taken as a document with
a path to the value of the image, and the tokens of its lines are those of the
path.
-/

namespace HookKeeper

/-! ## Lines -/

namespace Yaml.Line

/-- A key with plain text. -/
def field (indent : Nat) (key text : String) : Line :=
  .entry indent false key (.plain (' ' :: text.toList))

/-- A key that starts an item, with plain text. -/
def first (indent : Nat) (key text : String) : Line :=
  .entry indent true key (.plain (' ' :: text.toList))

/-- A key whose value stands on the lines below it. -/
def heading (indent : Nat) (key : String) : Line :=
  .entry indent false key (.plain [])

/-- A line as a text without its line break. -/
def text (line : Line) : String :=
  String.ofList (List.replicate line.indent ' ' ++ line.content)

theorem toList_text (line : Line) :
    line.text.toList ++ ['\n'] = line.chars := by
  rw [text, String.toList_ofList, chars]

end Yaml.Line

namespace Manifest

open HookKeeper.Datum
open HookKeeper.Text
open HookKeeper.Yaml

/-- The lines of the template before the image. -/
def linesBefore : List Line := [
  .field 0 "apiVersion" "apps/v1",
  .field 0 "kind" "Deployment",
  .heading 0 "metadata",
  .field 2 "name" "csi-snapshot-webhook",
  .field 2 "namespace" "openshift-cluster-storage-operator",
  .heading 2 "labels",
  .field 4 "app" "csi-snapshot-webhook",
  .heading 0 "spec",
  .field 2 "replicas" "1",
  .heading 2 "selector",
  .heading 4 "matchLabels",
  .field 6 "app" "csi-snapshot-webhook",
  .heading 2 "strategy",
  .field 4 "type" "RollingUpdate",
  .heading 4 "rollingUpdate",
  .field 6 "maxUnavailable" "1",
  .field 6 "maxSurge" "0",
  .heading 2 "template",
  .heading 4 "metadata",
  .heading 6 "labels",
  .field 8 "app" "csi-snapshot-webhook",
  .heading 4 "spec",
  .field 6 "serviceAccountName" "csi-snapshot-webhook",
  .field 6 "priorityClassName" "system-cluster-critical",
  .heading 6 "containers",
  .first 8 "name" "webhook"]

/-- The lines between the image and the verbosity. -/
def linesBetween : List Line := [
  .heading 10 "args",
  .item 12
    "--tls-cert-file=/etc/snapshot-validation-webhook/certs/tls.crt".toList,
  .item 12
    "--tls-private-key-file=/etc/snapshot-validation-webhook/certs/tls.key".toList]

/-- The lines after the verbosity. -/
def linesAfter : List Line := [
  .item 12 "--port=8443".toList,
  .heading 10 "ports",
  .first 12 "name" "webhook",
  .field 14 "containerPort" "8443",
  .heading 10 "resources",
  .heading 12 "requests",
  .field 14 "cpu" "10m",
  .field 14 "memory" "20Mi",
  .heading 10 "volumeMounts",
  .first 12 "name" "certs",
  .field 14 "mountPath" "/etc/snapshot-validation-webhook/certs",
  .field 14 "readOnly" "true",
  .heading 6 "nodeSelector",
  .entry 8 false "node-role.kubernetes.io/master" .emptyQuotes,
  .heading 6 "tolerations",
  .first 8 "key" "node-role.kubernetes.io/master",
  .field 10 "operator" "Exists",
  .field 10 "effect" "NoSchedule",
  .heading 6 "affinity",
  .heading 8 "podAntiAffinity",
  .heading 10 "preferredDuringSchedulingIgnoredDuringExecution",
  .first 12 "weight" "100",
  .heading 14 "podAffinityTerm",
  .heading 16 "labelSelector",
  .heading 18 "matchLabels",
  .field 20 "app" "csi-snapshot-webhook",
  .field 16 "topologyKey" "kubernetes.io/hostname",
  .heading 6 "volumes",
  .first 8 "name" "certs",
  .heading 10 "secret",
  .field 12 "secretName" "csi-snapshot-webhook-secret"]

/-- The line with the image. -/
def imageLine (image : List Char) : Line :=
  .entry 10 false "image" (.plain (' ' :: image))

/-- The line with the verbosity. -/
def verbosityLine (verbosity : List Char) : Line :=
  .item 12 ("--v=".toList ++ verbosity)

/-- The lines after the image. -/
def linesAfterImage (verbosity : List Char) : List Line :=
  linesBetween ++ verbosityLine verbosity :: linesAfter

/-- The lines of the template with an image and a verbosity. -/
def linesWith (image verbosity : List Char) : List Line :=
  linesBefore ++ imageLine image :: linesAfterImage verbosity

/-- The lines of the template, with the placeholders. -/
theorem deploymentLines_eq :
    deploymentLines =
      (linesWith Placeholder.image.pattern
        Placeholder.verbosity.pattern).map Line.text := by
  rfl

/-- The lines make up the template. -/
theorem chars_template :
    charsOfLines deploymentLines =
      (linesWith Placeholder.image.pattern
        Placeholder.verbosity.pattern).flatMap Line.chars := by
  rw [deploymentLines_eq, charsOfLines, List.flatMap_map]
  exact congrArg (List.flatMap · _) (funext Line.toList_text)

theorem fit_linesBefore : Line.Fit 10 linesBefore := by decide

theorem fit_linesBetween : Line.Fit 12 linesBetween := by decide

theorem fit_linesAfter : Line.Fit 0 linesAfter := by decide

theorem fit_linesAfterImage (level : LogLevel) :
    Line.Fit 0 (linesAfterImage (Digits.ofNat level.verbosity)) := by
  have fits : (verbosityLine (Digits.ofNat level.verbosity)).Fits 12 := by
    cases level <;> decide
  exact Line.fit_append.2 ⟨fit_linesBetween, fits, fit_linesAfter⟩

theorem fit_linesWith
    {image : List Char}
    (unbroken : IsLine image)
    (value : PlainText.IsValue image)
    (level : LogLevel) :
    Line.Fit 0 (linesWith image (Digits.ofNat level.verbosity)) := by
  have fits : (imageLine image).Fits 10 :=
    ⟨by decide, List.forall_mem_cons.2 ⟨rfl, unbroken⟩, rfl, value,
      .inr (Nat.le_refl 10)⟩
  exact Line.fit_append.2 ⟨fit_linesBefore, fits, fit_linesAfterImage level⟩

/-- No quotes that the image leaves open are closed by what follows it. -/
theorem seals_linesAfterImage (level : LogLevel) :
    Seals (lineEnd 10 (Line.visible 0 []
      (linesAfterImage (Digits.ofNat level.verbosity)))) := by
  cases level <;> decide +kernel

/-! ## Filling in the template -/

/-- What stands before the image. -/
def charsBefore : List Char :=
  linesBefore.flatMap Line.chars ++ "          image: ".toList

/-- What stands between the image and the verbosity, after a line break. -/
def charsBetween : List Char :=
  linesBetween.flatMap Line.chars ++ "            - --v=".toList

/-- What stands after the verbosity. -/
def charsAfter : List Char := '\n' :: linesAfter.flatMap Line.chars

theorem chars_linesWith (image verbosity : List Char) :
    (linesWith image verbosity).flatMap Line.chars =
      charsBefore ++ (image ++ '\n' ::
        (charsBetween ++ (verbosity ++ charsAfter))) := by
  have named : "          image: ".toList =
      List.replicate 10 ' ' ++ ("image".toList ++ [':', ' ']) := by decide
  have dashed : "            - --v=".toList =
      List.replicate 12 ' ' ++ '-' :: ' ' :: "--v=".toList := by decide
  rw [charsBefore, charsBetween, named, dashed]
  simp [linesWith, linesAfterImage, imageLine, verbosityLine, Line.chars,
    Line.content, Line.indent, Ending.chars, charsAfter]

/-- Apart from placeholders the template has no dollar signs. -/
theorem plain_chars
    {character : Char}
    (member : character ∈ charsBefore ++ charsBetween ++ charsAfter) :
    isAllowed character = true ∧ character ≠ '$' := by
  have plain : (charsBefore ++ charsBetween ++ charsAfter).all
      (fun character => isAllowed character && character != '$') = true := by
    decide +kernel
  simpa using List.all_eq_true.1 plain character member

theorem all_isAllowed_linesWith
    (image : List Char)
    (level : LogLevel) :
    ((linesWith image (Digits.ofNat level.verbosity)).flatMap
      Line.chars).all isAllowed = image.all isAllowed := by
  have before : charsBefore.all isAllowed = true :=
    List.all_eq_true.2 fun character member =>
      (plain_chars (by simp [member])).1
  have between : charsBetween.all isAllowed = true :=
    List.all_eq_true.2 fun character member =>
      (plain_chars (by simp [member])).1
  have after : charsAfter.all isAllowed = true :=
    List.all_eq_true.2 fun character member =>
      (plain_chars (by simp [member])).1
  have digits : (Digits.ofNat level.verbosity).all isAllowed = true := by
    cases level <;> decide
  have lineBreak : isAllowed '\n' = true := by decide
  rw [chars_linesWith]
  simp [before, between, after, digits, lineBreak]

/-- A text with the first lines of the template has no byte order mark. -/
theorem head?_linesBefore (lines : List Line) :
    ((linesBefore ++ lines).flatMap Line.chars).head? ≠ some '\uFEFF' := by
  have first : (linesBefore.flatMap Line.chars).head? = some 'a' := rfl
  rw [List.flatMap_append, List.head?_append, first]
  exact fun same => absurd (Option.some.inj same) (by decide)

/-- Text without dollar signs is left alone. -/
theorem filled_append_of_unmarked
    {front : List Char}
    (unmarked : '$' ∉ front)
    (rest image : List Char)
    (level : LogLevel) :
    filled (front ++ rest) image level = front ++ filled rest image level := by
  rw [filled, replaceAll_append_of_unstarted
      (Placeholder.image.occurrences_append_of_unmarked unmarked _),
    replaceAll_append_of_unstarted
      (Placeholder.verbosity.occurrences_append_of_unmarked unmarked _),
    filled]

theorem filled_image_append
    {image : List Char}
    (still : asks image = 0)
    (rest : List Char)
    (level : LogLevel) :
    filled (Placeholder.image.pattern ++ '\n' :: rest) image level =
      image ++ filled ('\n' :: rest) image level := by
  have differs (placeholder : Placeholder) :
      ¬ placeholder.pattern <+: '\n' :: rest := by
    intro present
    cases placeholder <;>
      exact absurd (List.cons_prefix_cons.1 present).1 (by decide)
  rw [filled, filled,
    Manifest.replaceAll_pattern_append Placeholder.image.pattern_ne_nil,
    replaceAll_cons_of_absent (differs .image), replaceAll_append_of_unstarted]
  have apart : '\n' ∉ Placeholder.verbosity.pattern := by decide
  rw [occurrences_append_cons apart]
  exact (congrArg (· + _) still).trans (Nat.zero_add _)

theorem filled_verbosity_append
    (rest image : List Char)
    (level : LogLevel) :
    filled (Placeholder.verbosity.pattern ++ rest) image level =
      Digits.ofNat level.verbosity ++ filled rest image level := by
  rw [filled, Placeholder.replaceAll_pattern_append, if_neg (by decide),
    Placeholder.replaceAll_pattern_append, if_pos rfl, filled]

/-- An image that asks for no verbosity is put in as it is. -/
theorem filled_template
    {image : List Char}
    (still : asks image = 0)
    (level : LogLevel) :
    filled (charsOfLines deploymentLines) image level =
      (linesWith image (Digits.ofNat level.verbosity)).flatMap Line.chars := by
  have before : '$' ∉ charsBefore := fun member =>
    (plain_chars (by simp [member])).2 rfl
  have between : '$' ∉ '\n' :: charsBetween := fun member => by
    rcases List.mem_cons.1 member with same | inside
    · exact absurd same (by decide)
    · exact (plain_chars (by simp [inside])).2 rfl
  have after : '$' ∉ charsAfter := fun member =>
    (plain_chars (by simp [member])).2 rfl
  have ended : filled charsAfter image level = charsAfter := by
    have parts := filled_append_of_unmarked after [] image level
    have nothing : filled [] image level = [] := rfl
    rw [nothing, List.append_nil] at parts
    exact parts
  rw [chars_template, chars_linesWith, chars_linesWith,
    filled_append_of_unmarked before]
  refine congrArg (charsBefore ++ ·) ?_
  rw [filled_image_append still]
  refine congrArg (image ++ ·) ?_
  rw [← List.cons_append, filled_append_of_unmarked between,
    filled_verbosity_append, ended]
  rfl

/-! ## The document -/

/-- Plain text as a value. -/
def plain (text : String) : Outline := .leaf text .plain

/-- The argument that sets the verbosity. -/
def verbosityArgument (level : LogLevel) : String :=
  String.ofList ("--v=".toList ++ Digits.ofNat level.verbosity)

def labelsPart : Outline := .record [("app", plain "csi-snapshot-webhook")]

def selectorPart : Outline := .record [("matchLabels", labelsPart)]

/-- The fields of the Deployment before its specification. -/
def fieldsBeforeSpec : List (String × Outline) := [
  ("apiVersion", plain "apps/v1"),
  ("kind", plain "Deployment"),
  ("metadata", .record [
    ("name", plain "csi-snapshot-webhook"),
    ("namespace", plain "openshift-cluster-storage-operator"),
    ("labels", labelsPart)])]

/-- The fields of the specification before the pods. -/
def fieldsBeforeTemplate : List (String × Outline) := [
  ("replicas", plain "1"),
  ("selector", selectorPart),
  ("strategy", .record [
    ("type", plain "RollingUpdate"),
    ("rollingUpdate", .record [
      ("maxUnavailable", plain "1"),
      ("maxSurge", plain "0")])])]

/-- The fields of the pods before their specification. -/
def fieldsBeforePod : List (String × Outline) := [
  ("metadata", .record [("labels", labelsPart)])]

/-- The fields of a pod before its containers. -/
def fieldsBeforeContainers : List (String × Outline) := [
  ("serviceAccountName", plain "csi-snapshot-webhook"),
  ("priorityClassName", plain "system-cluster-critical")]

def affinityPart : Outline := .record [
  ("podAntiAffinity", .record [
    ("preferredDuringSchedulingIgnoredDuringExecution", .list [.record [
      ("weight", plain "100"),
      ("podAffinityTerm", .record [
        ("labelSelector", selectorPart),
        ("topologyKey", plain "kubernetes.io/hostname")])]])])]

/-- The fields of a pod after its containers. -/
def fieldsAfterContainers : List (String × Outline) := [
  ("nodeSelector", .record [
    ("node-role.kubernetes.io/master", .leaf "" .quoted)]),
  ("tolerations", .list [.record [
    ("key", plain "node-role.kubernetes.io/master"),
    ("operator", plain "Exists"),
    ("effect", plain "NoSchedule")]]),
  ("affinity", affinityPart),
  ("volumes", .list [.record [
    ("name", plain "certs"),
    ("secret", .record [
      ("secretName", plain "csi-snapshot-webhook-secret")])]])]

/-- The fields of the container before its image. -/
def fieldsBeforeImage : List (String × Outline) := [("name", plain "webhook")]

/-- The fields of the container after its image. -/
def fieldsAfterImage (level : LogLevel) : List (String × Outline) := [
  ("args", .list [
    plain "--tls-cert-file=/etc/snapshot-validation-webhook/certs/tls.crt",
    plain
      "--tls-private-key-file=/etc/snapshot-validation-webhook/certs/tls.key",
    plain (verbosityArgument level),
    plain "--port=8443"]),
  ("ports", .list [.record [
    ("name", plain "webhook"),
    ("containerPort", plain "8443")]]),
  ("resources", .record [
    ("requests", .record [
      ("cpu", plain "10m"),
      ("memory", plain "20Mi")])]),
  ("volumeMounts", .list [.record [
    ("name", plain "certs"),
    ("mountPath", plain "/etc/snapshot-validation-webhook/certs"),
    ("readOnly", plain "true")]])]

/-- The path to the container. -/
def containerPath : Path := [
  .item [] [],
  .entry fieldsBeforeContainers "containers" fieldsAfterContainers,
  .entry fieldsBeforePod "spec" [],
  .entry fieldsBeforeTemplate "template" [],
  .entry fieldsBeforeSpec "spec" []]

/-- The path to the value of the image, with fields that come after it. -/
def imagePath (after : List (String × Outline)) : Path :=
  .entry fieldsBeforeImage "image" after :: containerPath

/-- The margin at the value of the image. -/
def imageMargin : Margin :=
  Line.opened 10 false "image" (Line.marginOf Margin.start linesBefore)

/-- The tokens of the lines before the image. -/
theorem opening_imagePath (after : List (String × Outline)) :
    imageMargin.newestFirst.reverse = (imagePath after).opening := by
  have tokens : imageMargin.newestFirst.reverse = (imagePath []).opening := by
    decide +kernel
  exact tokens

/-- The tokens of the lines after the image. -/
theorem closing_imagePath (level : LogLevel) :
    Line.closing imageMargin.indent imageMargin.outer
        (linesAfterImage (Digits.ofNat level.verbosity)) =
      (imagePath (fieldsAfterImage level)).closing := by
  cases level <;> decide +kernel

end Manifest

end HookKeeper
