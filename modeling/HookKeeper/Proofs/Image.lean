import HookKeeper.Proofs.TemplateReading

/-!
# Images in the rendered Deployment

The image of the settings is put into the text of a template, and the text is
then read as a document.  An image on one line, however it is written, changes
nothing of the Deployment but the image of its container: plain text comes back
without what stops it, and what starts with a bracket is refused.  An image that
goes on over a line break can add whatever it likes.
-/

namespace HookKeeper

/-- The pod with another image in its containers. -/
def PodSpec.withImage (pod : PodSpec) (image : Option String) : PodSpec :=
  { pod with
    containers := pod.containers.map fun container =>
      { container with image := image } }

/-- The Deployment with another image in its containers. -/
def Deployment.withImage
    (deployment : Deployment)
    (image : Option String) : Deployment :=
  { deployment with
    spec := deployment.spec.map fun spec =>
      { spec with
        template := { spec.template with
          spec := spec.template.spec.map (·.withImage image) } } }

namespace Manifest

open HookKeeper.Datum
open HookKeeper.Text
open HookKeeper.Yaml

@[simp]
theorem withImage_templateDeployment
    (first second : Option String)
    (level : LogLevel) :
    (templateDeployment first level).withImage second =
      templateDeployment second level := rfl

theorem templateDeployment_inj
    {first second : Option String}
    {level : LogLevel} :
    templateDeployment first level = templateDeployment second level ↔
      first = second := by
  simp [templateDeployment, deploymentOf]

/-! ## Filling in and decoding -/

/-- The text of the template with an image. -/
def filledChars (image : List Char) (level : LogLevel) : List Char :=
  (linesWith image (Digits.ofNat level.verbosity)).flatMap Line.chars

theorem renderDeployment_of_fillIn
    {template image text : String}
    {logLevel : Option String}
    (found : fillIn template image logLevel = .ok text) :
    renderDeployment template image logLevel =
      decode .deployment Deployment.ofDatum? text := by
  rw [renderDeployment, found]
  rfl

theorem renderDeployment_eq_decode
    {image : String}
    {logLevel : Option String}
    {level : LogLevel}
    (known : LogLevel.parse logLevel = .ok level)
    (still : asks image.toList = 0) :
    renderDeployment ({} : Templates).deployment image logLevel =
      decode .deployment Deployment.ofDatum?
        (String.ofList (filledChars image.toList level)) := by
  have text : fillIn ({} : Templates).deployment image logLevel =
      .ok (String.ofList (filledChars image.toList level)) := by
    rw [fillIn, known, filledChars, ← filled_template still,
      String.toList_ofList]
    rfl
  exact renderDeployment_of_fillIn text

/-- A decoded object comes from the tokens of its text. -/
theorem decode_ofList_eq_ok
    {chars : List Char}
    {deployment : Deployment} :
    decode .deployment Deployment.ofDatum? (String.ofList chars) =
        .ok deployment ↔
      ∃ tokens document,
        Token.ofText? chars = some tokens ∧
          Document.ofTokens? tokens = some document ∧
            Deployment.ofDatum? document.datum = some deployment := by
  rw [decode, datum?_ofList, datumOfChars?]
  cases Token.ofText? chars with
  | none => simp
  | some tokens =>
      rw [Option.bind_some]
      cases found : Document.ofTokens? tokens with
      | none => simp [found]
      | some document =>
          dsimp only [Option.map_some]
          cases read : Deployment.ofDatum? document.datum <;>
            simp [found, read]

theorem decode_cases
    (asset : Asset)
    (read : Datum → Option α)
    (text : String) :
    (∃ object, decode asset read text = .ok object) ∨
      ∃ fault,
          decode asset read text = .error (.templateDecode asset fault) := by
  rw [decode]
  split
  · exact .inr ⟨_, rfl⟩
  · split
    · exact .inr ⟨_, rfl⟩
    · exact .inl ⟨_, rfl⟩

/-! ## Any image on one line -/

/-- An image on one line that asks for no verbosity. -/
structure IsOneLine (image : List Char) : Prop where
  unbroken : IsLine image
  still : asks image = 0

section

variable {image : List Char} {level : LogLevel} {tokens leaves : List Token}
  {document : Yaml.Document} {deployment : Deployment}

/-- What follows the line of the image. -/
def charsAfterLine (level : LogLevel) : List Char :=
  Line.visible 0 [] (linesAfterImage (Digits.ofNat level.verbosity))

/-- The scan of a filled-in template comes to the value of the image. -/
theorem exists_scan?_image
    (line : IsOneLine image)
    (found : Token.ofText? (filledChars image level) = some tokens) :
    image.all isAllowed = true ∧
      ∃ fuel index number column,
        10 < column ∧
          Layout.scan? fuel
            (imageMargin.layout
              ⟨(' ' :: image) ++ lineEnd 10 (charsAfterLine level), index,
                number, column⟩ none false) = some tokens := by
  have unbroken : IsLine (' ' :: image) :=
    List.forall_mem_cons.2 ⟨rfl, line.unbroken⟩
  have parts : linesWith image (Digits.ofNat level.verbosity) =
      linesBefore ++ .entry 10 false "image" (.plain (' ' :: image)) ::
        linesAfterImage (Digits.ofNat level.verbosity) := rfl
  rcases Token.exists_scan?_of_entry parts unbroken rfl (by decide)
      fit_linesBefore (fit_linesAfterImage level) rfl
      (head?_linesBefore _) found with
    ⟨allowed, fuel, index, number, column, inside, scanned⟩
  rw [all_isAllowed_linesWith] at allowed
  exact ⟨allowed, fuel, index, number, column, inside, scanned⟩

theorem indent_imageMargin : imageMargin.indent = 10 :=
  Line.indent_opened
    (Line.grounded_marginOf Margin.grounded_start linesBefore) 10 false "image"

theorem isTokenStart_charsAfterLine (level : LogLevel) :
    IsTokenStart (charsAfterLine level) :=
  have ended : IsTokenStart [] := rfl
  Line.isTokenStart_visible (fit_linesAfterImage level) ended

/-- The tokens of a filled-in template, up to the next line or to a bracket. -/
theorem exists_walks_image
    (line : IsOneLine image)
    (found : Token.ofText? (filledChars image level) = some tokens) :
    ∃ leaves,
      Layout.Walks imageMargin 10 (charsAfterLine level)
        (image.dropWhile isSpace) tokens leaves := by
  have place := indent_imageMargin
  have unbroken : IsLine (' ' :: image) :=
    List.forall_mem_cons.2 ⟨rfl, line.unbroken⟩
  rcases exists_scan?_image line found with
    ⟨-, fuel, index, number, column, inside, scanned⟩
  have walks := Layout.exists_walks (seals_linesAfterImage level)
    (isTokenStart_charsAfterLine level) unbroken (by omega) (by omega)
    (by omega) scanned
  exact walks

/-- The tokens of the lines after the image come after those of its value. -/
theorem tokens_of_closing
    {lines : List Line}
    {after : List (String × Outline)}
    (closing : Line.closing imageMargin.indent imageMargin.outer lines =
      (imagePath after).closing)
    (leaves : List Token) :
    (((Line.marginOf (imageMargin.push leaves) lines).close 0).close
        (-1)).newestFirst.reverse =
      (imagePath after).opening ++ (leaves ++ (imagePath after).closing) := by
  have before : (imageMargin.push leaves).newestFirst.reverse =
      (imagePath after).opening ++ leaves := by
    rw [Margin.push, List.reverse_append, List.reverse_reverse,
      opening_imagePath after]
  have place (margin : Margin) :
      (margin.push leaves).indent = margin.indent ∧
        (margin.push leaves).outer = margin.outer := ⟨rfl, rfl⟩
  rw [Line.tokens_marginOf, before, List.append_assoc, (place _).1,
    (place _).2, closing]

/-- Only the image of the Deployment depends on an image on one line. -/
theorem exists_image
    (line : IsOneLine image)
    (rendered : decode .deployment Deployment.ofDatum?
        (String.ofList (filledChars image level)) = .ok deployment) :
    ∃ value,
      deployment = templateDeployment value level ∧
        ((image.dropWhile isSpace).head?.any PlainText.marks.contains = true →
          ∀ text ∈ value, text.length < image.length) := by
  rcases decode_ofList_eq_ok.1 rendered with
    ⟨tokens, document, scanned, read, object⟩
  rcases exists_walks_image line scanned with ⟨leaves, walks⟩
  have within := (List.dropWhile_suffix isSpace (l := image)).length_le
  cases walks.onwards with
  | ended fuel index number found =>
      have grounded : imageMargin.Grounded := Line.grounded_opened
        (Line.grounded_marginOf Margin.grounded_start linesBefore) 10 false
        "image"
      rw [Layout.eq_of_scan?_lines (fit_linesAfterImage level)
        (grounded.push leaves) found,
        tokens_of_closing (closing_imagePath level)] at read
      rcases exists_image_of_ofTokens? level walks.leafy read object with
        ⟨value, same, short⟩
      refine ⟨value, same, fun marked text member => ?_⟩
      have fewer := walks.shorter marked
      have bound := short text member
      omega
  | bracket token structured found =>
      rw [ofDatum?_of_bracket walks.leafy structured found read] at object
      exact absurd object nofun

/-- An image that starts with a bracket or an alias is refused. -/
theorem not_rendered
    (line : IsOneLine image)
    {first : Char}
    (visible : (image.dropWhile isSpace).head? = some first)
    (barred : first ∈ [',', '[', ']', '\x7b', '\x7d', '*']) :
    decode .deployment Deployment.ofDatum?
      (String.ofList (filledChars image level)) ≠ .ok deployment := by
  intro rendered
  rcases decode_ofList_eq_ok.1 rendered with
    ⟨tokens, document, scanned, read, object⟩
  rcases exists_scan?_image line scanned with
    ⟨-, fuel, index, number, column, inside, found⟩
  have place := indent_imageMargin
  have known :
      [',', '[', ']', '\x7b', '\x7d', '*'] ⊆ PlainText.marks := by decide
  have shown : ((' ' :: image).dropWhile isSpace).head? = some first := visible
  rcases Layout.exists_markToken? (by omega) (by omega) (known barred) shown
    found with ⟨cursor, after, steps, token, later⟩
  have either : first ∈ [',', '[', ']', '\x7b', '\x7d'] ++ ['*'] := barred
  rcases List.mem_append.1 either with bracket | star
  · rcases Layout.keeps_of_bracket bracket token with
      ⟨structured, isBracket, keeps⟩
    have starts := keeps.scan? later
    rw [← List.append_nil imageMargin.newestFirst.reverse] at starts
    rw [ofDatum?_of_bracket (List.forall_mem_nil _) isBracket starts read]
      at object
    exact absurd object nofun
  · rw [List.mem_singleton.1 star] at token
    rcases Layout.keeps_of_star token with ⟨name, keeps⟩
    rw [ofTokens?_of_alias (keeps.scan? later)] at read
    exact absurd read nofun

/-- Plain text as the image is read, whatever fields come after it. -/
theorem exists_document_of_lines
    {lines : List Line}
    {after : List (String × Outline)}
    {others : List Token}
    (fit : Line.Fit 0 (linesBefore ++ imageLine image :: lines))
    (allowed :
      ((linesBefore ++ imageLine image :: lines).flatMap Line.chars).all
      isAllowed = true)
    (cheap : ∀ part ∈ imagePath after, part.cost ≤ 400)
    (closing : Line.closing imageMargin.indent imageMargin.outer lines =
      (imagePath after).closing)
    (further : (imagePath after).closing = .key :: others) :
    ∃ tokens document slots,
      Token.ofText? ((linesBefore ++ imageLine image :: lines).flatMap
          Line.chars) = some tokens ∧
        Document.ofTokens? tokens = some document ∧
          document.datum = ((imagePath after).plug
            (.scalar (String.ofList (PlainText.heard image)) .plain
              none)).datum slots := by
  have scanned := Token.ofText?_lines fit rfl (head?_linesBefore _)
  have tokens : Line.tokens (linesBefore ++ imageLine image :: lines) =
      (imagePath after).opening ++ (Ending.tokens (.plain (' ' :: image)) ++
        (imagePath after).closing) := by
    rw [← tokens_of_closing closing, Line.tokens, Line.marginOf,
      List.foldl_append, List.foldl_cons]
    rfl
  rcases exists_document_of_value cheap further image with
    ⟨document, slots, read, same⟩
  rw [if_pos allowed, tokens] at scanned
  exact ⟨_, document, slots, scanned, read, same⟩

/-- Plain text is read from the template, and anything else is a fault. -/
theorem decode_of_unmarked
    (line : IsOneLine image)
    (unmarked : (image.dropWhile isSpace).head?.any PlainText.marks.contains =
        false) :
    decode .deployment Deployment.ofDatum?
        (String.ofList (filledChars image level)) =
      if image.all isAllowed = true ∧ PlainText.IsValue image then
        .ok (templateDeployment (readImage image) level)
      else .error (.templateDecode .deployment .malformed) := by
  by_cases good : image.all isAllowed = true ∧ PlainText.IsValue image
  · rw [if_pos good]
    rcases closing_eq_cons level with ⟨others, further⟩
    rcases exists_document_of_lines
      (fit_linesWith line.unbroken good.2 level)
      ((all_isAllowed_linesWith image level).trans good.1)
      (cheap_imagePath level) (closing_imagePath level) further with
      ⟨tokens, document, slots, scanned, read, same⟩
    refine decode_ofList_eq_ok.2 ⟨tokens, document, scanned, read, ?_⟩
    rw [same, ofDatum?_plain]
  · rw [if_neg good]
    have untokened : Token.ofText? (filledChars image level) = none := by
      cases found : Token.ofText? (filledChars image level) with
      | none => rfl
      | some tokens =>
          have unbroken : IsLine (' ' :: image) :=
            List.forall_mem_cons.2 ⟨rfl, line.unbroken⟩
          have parts : linesWith image (Digits.ofNat level.verbosity) =
              linesBefore ++ .entry 10 false "image" (.plain (' ' :: image)) ::
                linesAfterImage (Digits.ofNat level.verbosity) := rfl
          have value : PlainText.IsValue (' ' :: image) :=
            PlainText.isValue_of_ofText? parts unbroken rfl unmarked
              (by decide) fit_linesBefore (fit_linesAfterImage level) rfl
              (head?_linesBefore _) found
          exact absurd ⟨(exists_scan?_image line found).1, value⟩ good
    rw [decode, datum?_ofList, datumOfChars?, untokened]
    rfl

end

/-- A value starts with no mark. -/
theorem unmarked_of_isValue
    {image : List Char}
    (value : PlainText.IsValue image) :
    (image.dropWhile isSpace).head?.any PlainText.marks.contains = false := by
  have apart : PlainText.marks.all (fun mark =>
      mark != '#' && PlainText.indicators.contains mark &&
        !(['-', '?', ':'].contains mark)) = true := by decide
  rw [PlainText.IsValue] at value
  cases starts : image.dropWhile isSpace with
  | nil => rfl
  | cons first rest =>
      rw [starts] at value
      refine Bool.eq_false_iff.2 fun marked => ?_
      have listed := List.all_eq_true.1 apart first
        (List.contains_iff_mem.1 marked)
      simp only [Bool.and_eq_true, bne_iff_ne, Bool.not_eq_true'] at listed
      rcases value with comment | ⟨opens, -⟩
      · exact listed.1.1 (by simpa using comment)
      · rcases PlainText.opens_cases opens with ⟨-, usual⟩ | ⟨dash, -⟩
        · have same := usual first (List.contains_iff_mem.1 listed.1.2)
          exact absurd rfl (beq_eq_false_iff_ne.1 same)
        · have member : first ∈ ['-', '?', ':'] := by simpa using dash
          rw [List.contains_iff_mem.2 member] at listed
          cases listed.2

/--
An image on one line changes nothing of the Deployment but the image of its
container.  It stands there as it is exactly where it is plain text that nothing
stops and that does not stand for no value.  Where it starts with no mark, its
plain text stands there or the template is malformed; where it starts with a
bracket or a star, there is no Deployment.
-/
theorem renderDeployment_image
    (image : String)
    (logLevel : Option String)
    (level : LogLevel)
    (known : LogLevel.parse logLevel = .ok level)
    (line : IsOneLine image.toList) :
    ∃ plain,
      renderDeployment ({} : Templates).deployment "x" logLevel = .ok plain ∧
        (∀ rendered,
          renderDeployment ({} : Templates).deployment image logLevel =
              .ok rendered →
            ∃ value, rendered = plain.withImage value) ∧
        (renderDeployment ({} : Templates).deployment image logLevel =
            .ok (plain.withImage (some image)) ↔
          image.toList.all isAllowed = true ∧
            PlainText.IsValue image.toList ∧
              PlainText.heard image.toList = image.toList ∧
                isNoValue image = false) ∧
        ((image.toList.dropWhile isSpace).head?.any
            PlainText.marks.contains = false →
          renderDeployment ({} : Templates).deployment image logLevel =
            if image.toList.all isAllowed = true ∧
                PlainText.IsValue image.toList then
              .ok (plain.withImage (readImage image.toList))
            else .error (.templateDecode .deployment .malformed)) ∧
        ((image.toList.dropWhile isSpace).head?.any
            [',', '[', ']', '\x7b', '\x7d', '*'].contains = true →
          ∃ fault,
            renderDeployment ({} : Templates).deployment image logLevel =
              .error (.templateDecode .deployment fault)) := by
  have letter : IsOneLine "x".toList := ⟨by decide, by decide⟩
  have plain := renderDeployment_eq_decode known letter.still
  rw [decode_of_unmarked letter (by decide), if_pos (by decide)] at plain
  refine ⟨_, plain, ?_⟩
  rw [renderDeployment_eq_decode known line.still]
  simp only [withImage_templateDeployment]
  refine ⟨fun rendered found => ?_, ⟨fun found => ?_, fun good => ?_⟩,
    fun unmarked => ?_, fun barred => ?_⟩
  · rcases exists_image line found with ⟨value, same, -⟩
    exact ⟨value, same⟩
  · rcases exists_image line found with ⟨value, same, shorter⟩
    cases unmarked : (image.toList.dropWhile isSpace).head?.any
        PlainText.marks.contains with
    | true =>
        have short :=
          shorter unmarked image (templateDeployment_inj.1 same).symm
        rw [String.length_toList] at short
        exact absurd short (Nat.lt_irrefl _)
    | false =>
        rw [decode_of_unmarked line unmarked] at found
        split at found
        next good =>
          have read := templateDeployment_inj.1 (Except.ok.inj found)
          exact ⟨good.1, good.2, readImage_eq_some_iff.1 read⟩
        · exact absurd found nofun
  · rw [decode_of_unmarked line (unmarked_of_isValue good.2.1),
      if_pos ⟨good.1, good.2.1⟩, readImage_eq_some_iff.2 good.2.2]
  · exact decode_of_unmarked line unmarked
  · rcases decode_cases .deployment Deployment.ofDatum?
        (String.ofList (filledChars image.toList level)) with
      ⟨rendered, found⟩ | fault
    · rcases Option.any_eq_true .. |>.1 barred with ⟨first, visible, listed⟩
      exact absurd found
        (not_rendered line visible (List.contains_iff_mem.1 listed))
    · exact fault

/-- A usual reference to an image is taken over as it stands. -/
theorem renderDeployment_image_reference :
    LogLevel.parse (some "Debug") = .ok .debug ∧
      IsOneLine "quay.io/webhook:1".toList ∧
        ∃ plain,
          renderDeployment ({} : Templates).deployment "x" (some "Debug") =
              .ok plain ∧
            renderDeployment ({} : Templates).deployment "quay.io/webhook:1"
                (some "Debug") =
              .ok (plain.withImage (some "quay.io/webhook:1")) := by
  have line : IsOneLine "quay.io/webhook:1".toList := ⟨by decide, by decide⟩
  rcases renderDeployment_image "quay.io/webhook:1" (some "Debug") .debug rfl
    line with ⟨plain, rendered, -, whole, -⟩
  exact ⟨rfl, line, plain, rendered,
    whole.2 ⟨by decide, by decide, by decide, by decide⟩⟩

/-! ## Images that do not stay as they are -/

/-- What stands after a line break of an image makes further lines. -/
theorem filledChars_of_lines
    {more : List Char}
    {lines : List Line}
    (broken : lines.flatMap Line.chars = more ++ ['\n'])
    (first : List Char)
    (level : LogLevel) :
    filledChars (first ++ '\n' :: more) level =
      (linesBefore ++ imageLine first :: (lines ++
        linesAfterImage (Digits.ofNat level.verbosity))).flatMap
          Line.chars := by
  simp only [filledChars, linesWith, List.flatMap_append, List.flatMap_cons,
    broken, imageLine, Line.chars, Line.content, Line.indent, Ending.chars,
    List.append_assoc, List.cons_append, List.nil_append]

/-- An image that goes on after a line break. -/
def brokenImage : String := "a\n          command:\n            - sh"

/-- The lines that such an image puts in after its own. -/
def commandLines : List Line := [.heading 10 "command", .item 12 "sh".toList]

/-- The fields of the container after its image, with that of these lines. -/
def fieldsWithCommand : List (String × Outline) :=
  ("command", .list [plain "sh"]) :: fieldsAfterImage .normal

/-- The container that starts with a command. -/
def commandContainer : Container :=
  { containerFrame .normal with image := some "a", command := some ["sh"] }

theorem cheap_fieldsWithCommand :
    ∀ part ∈ imagePath fieldsWithCommand, part.cost ≤ 400 := by
  decide

theorem closing_fieldsWithCommand :
    Line.closing imageMargin.indent imageMargin.outer (commandLines ++
        linesAfterImage (Digits.ofNat LogLevel.normal.verbosity)) =
      (imagePath fieldsWithCommand).closing := by
  decide +kernel

theorem fit_commandLines :
    Line.Fit 0 (linesBefore ++ imageLine ['a'] :: (commandLines ++
      linesAfterImage (Digits.ofNat LogLevel.normal.verbosity))) :=
  have fits : (imageLine ['a']).Fits 10 := by decide
  have further : Line.Fit 10 commandLines := by decide
  Line.fit_append.2 ⟨fit_linesBefore, fits,
    Line.fit_append.2 ⟨further, fit_linesAfterImage .normal⟩⟩

/-- The lines of a command are read as a field of the container. -/
theorem ofDatum?_fieldsWithCommand (slots : SlotData) :
    Deployment.ofDatum? (((imagePath fieldsWithCommand).plug
      (.scalar "a" .plain none)).datum slots) =
        some (deploymentOf commandContainer) := by
  have container : Container.ofDatum? (recordDatum
      (Outline.fields fieldsBeforeImage ++
        ("image", (Yaml.Node.scalar "a" .plain none).datum []) ::
          Outline.fields fieldsWithCommand)) = some commandContainer := rfl
  have read := congrArg (Option.map deploymentOf) container
  rw [imagePath, Path.plug, ofDatum?_containerPath, Frame.datum_plug]
  exact read

theorem renderDeployment_brokenImage :
    renderDeployment ({} : Templates).deployment brokenImage (some "Normal") =
      .ok (deploymentOf commandContainer) := by
  have added : commandLines.flatMap Line.chars =
      "          command:\n            - sh".toList ++ ['\n'] := by decide
  have text := filledChars_of_lines added ['a'] .normal
  have allowed : (filledChars brokenImage.toList .normal).all isAllowed =
      true := (all_isAllowed_linesWith _ _).trans (by decide)
  rcases exists_document_of_lines fit_commandLines (text ▸ allowed)
    cheap_fieldsWithCommand closing_fieldsWithCommand rfl with
    ⟨tokens, document, slots, scanned, read, same⟩
  rw [renderDeployment_eq_decode rfl (by decide)]
  refine decode_ofList_eq_ok.2
    ⟨tokens, document, text ▸ scanned, read, ?_⟩
  rw [same]
  exact ofDatum?_fieldsWithCommand slots

/--
The image is not always taken over as it is: a comment is left out of it, and
what stands after a line break adds a field to the container, so that the
Deployment is not the same one with any other image.
-/
theorem renderDeployment_not_verbatim :
    ∃ plain cut broken,
      renderDeployment ({} : Templates).deployment "x" (some "Normal") =
          .ok plain ∧
        renderDeployment ({} : Templates).deployment "a #b" (some "Normal") =
          .ok cut ∧
        cut = plain.withImage (some "a") ∧
        cut ≠ plain.withImage (some "a #b") ∧
        renderDeployment ({} : Templates).deployment
            "a\n          command:\n            - sh" (some "Normal") =
          .ok broken ∧
        ∀ value, broken ≠ plain.withImage value := by
  have rendered (image : List Char) (line : IsOneLine image)
      (unmarked : (image.dropWhile isSpace).head?.any
        PlainText.marks.contains = false)
      (good : image.all isAllowed = true ∧ PlainText.IsValue image) :
      renderDeployment ({} : Templates).deployment (String.ofList image)
          (some "Normal") =
        .ok (templateDeployment (readImage image) .normal) := by
    have known : LogLevel.parse (some "Normal") = .ok .normal := rfl
    rw [renderDeployment_eq_decode known
      ((congrArg asks (String.toList_ofList ..)).trans line.still),
      String.toList_ofList, decode_of_unmarked line unmarked, if_pos good]
  refine ⟨_, _, _,
    rendered ['x'] ⟨by decide, by decide⟩ (by decide) (by decide),
    rendered "a #b".toList ⟨by decide, by decide⟩ (by decide) (by decide),
    ?_, ?_, renderDeployment_brokenImage, fun value same => ?_⟩
  · rw [withImage_templateDeployment]
    exact templateDeployment_inj.2 (by decide)
  · rw [withImage_templateDeployment]
    exact fun same => absurd (templateDeployment_inj.1 same) (by decide)
  · have commands := congrArg (fun deployment : Deployment =>
      deployment.spec.bind (·.template.spec) |>.map fun pod =>
        pod.containers.map (·.command)) same
    exact absurd commands nofun

end Manifest

end HookKeeper
