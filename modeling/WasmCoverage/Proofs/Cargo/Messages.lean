import WasmCoverage.Cargo.Messages
import WasmCoverage.Proofs.Json.Grammar
import WasmCoverage.Proofs.Text.Lines

/-!
# No executable is lost

Between the records of the build tool stand remarks for human readers.  From every such stream
exactly the executables are taken that the records of built artifacts name, in order and once per
record (**`executables_of_says`**).

A record is any text that spells it, with blanks around it, whole numbers and nesting within the
limits of the reader.  It has to stand on one line in the reader's sense: the characters U+0085,
U+2028 and U+2029 end a line, and JSON lets them stand in a string as they are.  An executable
whose path has such a character in it is lost (`not_executables_of_next_line`).  In the same way a
remark must not have a record after such a character.
-/

namespace WasmCoverage.Cargo

open WasmCoverage.Text

variable {depth : Nat}

/-! ## What lines say -/

/-- What a line says: a record that stands on it alone, or nothing if it is a remark, no line of
which begins as a record does. -/
inductive Says (depth : Nat) : List Char → Option Json → Prop where
  | record {before text after : List Char} {entries : Json.Entries} (hbefore : Json.Spaces before)
      (h : Json.Spells depth text (.record entries)) (hafter : Json.Spaces after)
      (hline : ∀ c ∈ before ++ (text ++ after), isLineEnd c = false) :
      Says depth (before ++ (text ++ after)) (some (.record entries))
  | remark {text : List Char} (h : ∀ line ∈ lines text, (trimChars line).head? ≠ some '{') :
      Says depth text none

/-- The record has its fields as the build tool writes them: a profile is a record or nothing, and
an executable is a text or nothing. -/
structure Regular (message : Json) : Prop where
  profile : ∀ value, message.get? "profile" = some value →
    value = .null ∨ ∃ entries, value = .record entries
  executable : ∀ value, message.get? "executable" = some value →
    value = .null ∨ ∃ name, value = .text name

/-- Does the profile say that the artifact was built for testing?  If nothing says so it was not. -/
def builtForTest (message : Json) : Bool :=
  match message.get? "profile" with
  | some (.record profile) => ((Json.Entries.get? "test" profile).map Json.isTruthy).getD false
  | _ => false

/-- The executable of an artifact that was built for testing or not, as it is wanted. -/
def named? (test : Bool) (message : Json) : Option String :=
  match message.get? "reason", message.get? "executable" with
  | some (.text reason), some (.text name) =>
    if reason = ("compiler-artifact" : LooseText) ∧ name ≠ ("" : LooseText) ∧
        builtForTest message = test then some name.lossy else none
  | _, _ => none

/-! ## Records -/

lemma isTest_eq {message : Json} (h : Regular message) :
    isTest message = .ok (builtForTest message) := by
  unfold isTest builtForTest
  cases hprofile : message.get? "profile" with
  | none => rfl
  | some profile =>
    obtain rfl | ⟨entries, rfl⟩ := h.profile profile hprofile
    · rfl
    · cases entries <;> rfl

lemma isTruthy_text (name : LooseText) :
    (Json.text name).isTruthy = true ↔ name ≠ ("" : LooseText) := by
  obtain ⟨points⟩ := name
  cases points <;> simp [Json.isTruthy, LooseText.isEmpty, LooseText.ofString, LooseText.ofChars]

/-- **Of a regular record the executable is taken** if it is wanted. -/
lemma executable?_eq {message : Json} (h : Regular message) (test : Bool) :
    executable? test message = .ok (named? test message) := by
  unfold executable? isArtifact named?
  cases hreason : message.get? "reason" with
  | none => rfl
  | some reason =>
    cases hexecutable : message.get? "executable" with
    | none => cases reason <;> simp
    | some value =>
      obtain rfl | ⟨name, rfl⟩ := h.executable value hexecutable
      · cases reason <;> simp [Json.isTruthy]
      · cases reason with
        | text reason =>
          by_cases hartifact : reason = ("compiler-artifact" : LooseText)
          · by_cases hname : name = ("" : LooseText)
            · subst hname
              simp [hartifact, show (Json.text ("" : LooseText)).isTruthy = false from rfl]
            · have hfull : (Json.text name).isTruthy = true := (isTruthy_text name).2 hname
              simp [hartifact, hfull, isTest_eq h, hname, Json.string, Json.display_text]
          · simp [hartifact]
        | _ => rfl

/-- A record is read from its line, whatever blanks stand around it. -/
lemma message?_of_record {before text after : List Char} {entries : Json.Entries}
    (hbefore : Json.Spaces before) (h : Json.Spells depth text (.record entries))
    (hafter : Json.Spaces after) :
    message? depth (before ++ (text ++ after)) = .ok (some (.record entries)) := by
  have hblank {blank : List Char} (h : Json.Spaces blank) : ∀ c ∈ blank, isBlank c = true := by
    intro c hc
    have hspace := h c hc
    simp only [Json.isSpace, Bool.or_eq_true, decide_eq_true_eq] at hspace
    rcases hspace with ((rfl | rfl) | rfl) | rfl <;> decide
  obtain ⟨inside, rfl⟩ : ∃ inside, text = '{' :: (inside ++ ['}']) := by
    cases h with
    | number h => cases h
    | noEntries h => exact ⟨_, rfl⟩
    | record h => exact ⟨_, rfl⟩
  have htrim : trimChars (before ++ ('{' :: (inside ++ ['}']) ++ after)) =
      '{' :: (inside ++ ['}']) := by
    refine trimWhile_append ?_ ?_ (by simp) (hblank hbefore) (hblank hafter)
    · rintro c ⟨⟩
      decide
    · rw [← List.cons_append, List.getLast?_concat]
      rintro c ⟨⟩
      decide
  have hspaces : Json.Spaces [] := by simp [Json.Spaces]
  have hread := Json.read_of_spells hspaces h hspaces
  simp only [List.nil_append, List.append_nil] at hread
  simp only [message?, htrim, hread]

/-! ## Lines -/

/-- The executable that a line names, if it is one of the wanted kind. -/
def onLine (depth : Nat) (test : Bool) (line : List Char) :
    Except MessageFault (Option String) := do
  match ← message? depth line with
  | none => return none
  | some message => executable? test message

/-- The lines name these executables. -/
def Names (depth : Nat) (test : Bool) (lines : List (List Char)) (found : List String) : Prop :=
  ∃ names, lines.mapM (onLine depth test) = .ok names ∧ names.filterMap id = found

section Names

variable {test : Bool} {first second : List (List Char)} {found more : List String}

lemma Names.append (h : Names depth test first found)
    (h' : Names depth test second more) : Names depth test (first ++ second) (found ++ more) := by
  obtain ⟨names, hnames, rfl⟩ := h
  obtain ⟨names', hnames', rfl⟩ := h'
  refine ⟨names ++ names', ?_, List.filterMap_append⟩
  simp only [List.mapM_append, hnames, hnames', bind, Except.bind, pure, Except.pure]

lemma names_of_remarks (h : ∀ line ∈ first, (trimChars line).head? ≠ some '{') :
    Names depth test first [] := by
  induction first with
  | nil => exact ⟨[], rfl, rfl⟩
  | cons line rest ih =>
    obtain ⟨hline, hrest⟩ := List.forall_mem_cons.1 h
    have hnone : onLine depth test line = .ok none := by
      unfold onLine message?
      split
      · rename_i heq
        exact absurd (by rw [heq]; rfl) hline
      · rfl
    obtain ⟨names, hnames, hfound⟩ := ih hrest
    refine ⟨none :: names, ?_, hfound⟩
    rw [List.mapM_cons, hnone, hnames]
    rfl

end Names

lemma executables_of_names {test : Bool} {output : String} {found : List String}
    (h : Names depth test (lines output.toList) found) :
    executables depth test output = .ok found := by
  obtain ⟨names, hnames, rfl⟩ := h
  have hrun : executables depth test output =
      (do let names ← (lines output.toList).mapM (onLine depth test)
          return names.filterMap id) := rfl
  rw [hrun, hnames]
  rfl

/-- What is said on a line is what its lines name. -/
lemma names_of_says {text : List Char} {message : Option Json} (h : Says depth text message)
    (hregular : ∀ record ∈ message, Regular record) (test : Bool) :
    Names depth test (lines text) (message.bind (named? test)).toList := by
  cases h with
  | remark h => exact names_of_remarks h
  | @record before text after entries hbefore h hafter hline =>
    have hne : before ++ (text ++ after) ≠ [] := by
      obtain ⟨c, rest, rfl, -⟩ := Json.begun_of_spells h
      simp
    have honLine : onLine depth test (before ++ (text ++ after)) =
        .ok (named? test (.record entries)) := by
      rw [onLine, message?_of_record hbefore h hafter]
      exact executable?_eq (hregular _ rfl) test
    rw [lines_of_forall hne hline]
    refine ⟨[named? test (.record entries)], ?_, ?_⟩
    · rw [List.mapM_cons, honLine]
      rfl
    · cases hnamed : named? test (.record entries) <;> simp [hnamed]

/-! ## The record of one artifact -/

/-- A text in quotes. -/
def inQuotes (text : String) : List Char :=
  '"' :: (text.toList ++ ['"'])

/-- The line of an artifact that was not built for testing. -/
def artifactLine (path : String) : List Char :=
  '{' :: (inQuotes "reason" ++ ':' :: (inQuotes "compiler-artifact" ++ ',' ::
    (inQuotes "executable" ++ ':' :: (inQuotes path ++ ',' ::
      (inQuotes "profile" ++ ':' :: ("null".toList ++ ['}']))))))

/-- What that line says. -/
def artifactEntries (path : String) : Json.Entries :=
  [(("reason" : String), .text ("compiler-artifact" : LooseText)),
    (("executable" : String), .text path), (("profile" : String), .null)]

/-- What holds of all characters can be found out by looking at each of them. -/
lemma forall_of_all {p : Char → Prop} [DecidablePred p] {text : List Char}
    (h : text.all (fun c => decide (p c)) = true) : ∀ c ∈ text, p c :=
  fun c hc => of_decide_eq_true (List.all_eq_true.1 h c hc)

lemma spells_artifact {path : String}
    (h : ∀ c ∈ path.toList, c ≠ '"' ∧ c ≠ '\\' ∧ 0x20 ≤ c.toNat) (room : Nat) :
    Json.Spells (room + 1) (artifactLine path) (.record (artifactEntries path)) := by
  have hnone : Json.Spaces [] := by simp [Json.Spaces]
  have hplain (text : String) (h : text.toList.all
      (fun c => decide (c ≠ '"' ∧ c ≠ '\\' ∧ 0x20 ≤ c.toNat)) = true) :
      Json.Inside text.toList (text.toList.map .char) :=
    Json.inside_of_plain (forall_of_all h)
  have hprofile : Json.SpellsEntries room _ _ :=
    .last hnone (hplain "profile" (by decide)) hnone hnone .null hnone
  have hexecutable := hprofile.more hnone (hplain "executable" (by decide)) hnone hnone
    (.text (Json.inside_of_plain h)) hnone
  have hreason := hexecutable.more hnone (hplain "reason" (by decide)) hnone hnone
    (.text (hplain "compiler-artifact" (by decide))) hnone
  have hrecord : Json.Spells (room + 1) _ (.record (Table.ofList (artifactEntries path))) :=
    .record hreason
  have hkeys : (Table.keys (artifactEntries path)).Nodup := by
    have hnodup :
        ([("reason" : String), ("executable" : String), ("profile" : String)] :
          List Key).Nodup := by
      decide
    exact hnodup
  rw [Table.ofList_of_nodup hkeys] at hrecord
  simpa only [artifactLine, inQuotes, List.nil_append, List.append_nil, List.append_assoc,
    List.cons_append] using hrecord

lemma regular_artifact (path : String) : Regular (.record (artifactEntries path)) where
  profile _ h := .inl (Option.some.inj h).symm
  executable _ h := .inr ⟨path, (Option.some.inj h).symm⟩

/-- The record is said on its line, if nothing in the path ends the line. -/
lemma says_artifact {path : String} (h : ∀ c ∈ path.toList, c ≠ '"' ∧ c ≠ '\\' ∧ 0x20 ≤ c.toNat)
    (hline : ∀ c ∈ artifactLine path, isLineEnd c = false) :
    Says (depth + 1) (artifactLine path) (some (.record (artifactEntries path))) := by
  have hnone : Json.Spaces [] := by simp [Json.Spaces]
  have hsays := Says.record hnone (spells_artifact h depth) hnone (by simpa using hline)
  simpa using hsays

/-! ## The main result -/

/-- **No executable is lost.**  From lines that are records or remarks, the executables of the
wanted kind are taken, in order and once per record. -/
theorem executables_of_says (test : Bool) {texts : List (List Char)} {messages : List (Option Json)}
    (h : List.Forall₂ (Says depth) texts messages)
    (hregular : ∀ message, some message ∈ messages → Regular message) :
    executables depth test (String.ofList (['\n'].intercalate texts)) =
      .ok (messages.filterMap fun message => message.bind (named? test)) := by
  refine executables_of_names ?_
  rw [String.toList_ofList]
  induction h with
  | nil => exact ⟨[], rfl, rfl⟩
  | @cons text message texts messages htext hrest ih =>
    have hfirst := names_of_says htext (fun record hrecord => hregular record (by simp_all)) test
    have hmore := ih fun record hrecord => hregular record (List.mem_cons_of_mem _ hrecord)
    have hfound : (message :: messages).filterMap (fun message => message.bind (named? test)) =
        (message.bind (named? test)).toList ++
          messages.filterMap fun message => message.bind (named? test) := by
      cases hnamed : message.bind (named? test) <;> simp [hnamed]
    rw [hfound]
    cases texts with
    | nil =>
      cases hrest
      simpa using hfirst
    | cons second texts =>
      obtain ⟨extra, hextra, hlines⟩ := lines_append text (['\n'].intercalate (second :: texts))
      have hjoin : ['\n'].intercalate (text :: second :: texts) =
          text ++ '\n' :: ['\n'].intercalate (second :: texts) := by
        simp [List.intercalate]
      have hempty : Names depth test extra [] := names_of_remarks fun line hline => by
        rw [hextra line hline]
        decide
      rw [hjoin, hlines]
      exact hfirst.append (hempty.append hmore)

/-- From a remark and the record of an artifact its executable is taken. -/
theorem executables_of_says_artifact :
    List.Forall₂ (Says 1000) ["  Compiling foo".toList, artifactLine "/t/foo"]
      [none, some (.record (artifactEntries "/t/foo"))] ∧
    (∀ message, some message ∈ [none, some (Json.record (artifactEntries "/t/foo"))] →
      Regular message) ∧
    executables 1000 false (String.ofList (['\n'].intercalate
      ["  Compiling foo".toList, artifactLine "/t/foo"])) = .ok ["/t/foo"] := by
  have hremark : Says 1000 "  Compiling foo".toList none := .remark (by decide +kernel)
  have hrecord : Says 1000 (artifactLine "/t/foo") (some (.record (artifactEntries "/t/foo"))) :=
    says_artifact (forall_of_all (by decide +kernel)) (forall_of_all (by decide +kernel))
  have hregular : ∀ message, some message ∈ [none, some (Json.record (artifactEntries "/t/foo"))] →
      Regular message := by
    intro message hmessage
    obtain rfl : message = .record (artifactEntries "/t/foo") := by simpa using hmessage
    exact regular_artifact _
  exact ⟨.cons hremark (.cons hrecord .nil), hregular,
    executables_of_says false (.cons hremark (.cons hrecord .nil)) hregular⟩

/-- **An executable is lost if its path has a line end of Unicode in it**, though JSON lets it
stand in a string as it is and the record is on one line of the stream. -/
theorem not_executables_of_next_line :
    Json.Spells 1000 (artifactLine "/a\u0085b")
      (.record (artifactEntries "/a\u0085b")) ∧
    (∀ c ∈ artifactLine "/a\u0085b", 0x20 ≤ c.toNat) ∧
    Regular (.record (artifactEntries "/a\u0085b")) ∧
    named? false (.record (artifactEntries "/a\u0085b")) = some "/a\u0085b" ∧
    executables 1000 false (String.ofList (artifactLine "/a\u0085b")) = .ok [] :=
  ⟨spells_artifact (forall_of_all (by decide +kernel)) 999, forall_of_all (by decide +kernel),
    regular_artifact _, by decide +kernel, by decide +kernel⟩

end WasmCoverage.Cargo
