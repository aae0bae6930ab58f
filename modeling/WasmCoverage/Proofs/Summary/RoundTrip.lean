import WasmCoverage.Proofs.Payload.Reading
import WasmCoverage.Proofs.Text.Utf8
import WasmCoverage.Summary.Decoding
import WasmCoverage.Summary.Encoding

/-!
# Summaries written and loaded

A summary is stored as a text and loaded from it again, or from any other text.  Both directions
meet in the summaries that `Fit`: they break no rule, their texts are whole, which every text of
characters is, and their counts have no more digits than a numeral may have.  A status is one of
those that are allowed by its type.

**`summaries_round_trip`**: a summary that fits is loaded from its own text as it was.  Whatever
text a summary was loaded from, it fits, so that storing and loading it once more changes nothing,
neither the summary nor, the second time, its text.

Each kind of record is one step (`agrees_artifact`, `agrees_merge`, `agrees_report` and, on top of
them, `agrees_finalize` and `agrees_reporting`): what is written is restorable and read back, and
what is read fits.
-/

namespace WasmCoverage

open WasmCoverage.Json WasmCoverage.Payload

/-! ## Summaries that fit -/

/-- The texts of an outcome. -/
def ArtifactOutcome.texts (outcome : ArtifactOutcome) : List LooseText :=
  [outcome.name, outcome.modulePath, outcome.message] ++ outcome.irPath.toList ++
    outcome.objectPath.toList

/-- The texts of an outcome. -/
def MergeOutcome.texts (outcome : MergeOutcome) : List LooseText :=
  [outcome.name, outcome.profilePath, outcome.message]

/-- The texts of an outcome. -/
def ReportOutcome.texts (outcome : ReportOutcome) : List LooseText :=
  [outcome.name, outcome.message] ++ outcome.profilePath.toList ++ outcome.objectPath.toList ++
    outcome.reportDirectory.toList

/-- The outcome breaks no rule, its texts are whole and its count is short. -/
structure ArtifactOutcome.Fit (outcome : ArtifactOutcome) : Prop where
  rules : ∀ rule ∈ outcome.rules, rule = none
  whole : ∀ text ∈ outcome.texts, text.Whole
  short : IsShort outcome.neutralized

/-- The outcome breaks no rule, its texts are whole and its count is short. -/
structure MergeOutcome.Fit (outcome : MergeOutcome) : Prop where
  rules : ∀ rule ∈ outcome.rules, rule = none
  whole : ∀ text ∈ outcome.texts, text.Whole
  short : IsShort outcome.sampleCount

/-- The outcome breaks no rule and its texts are whole. -/
structure ReportOutcome.Fit (outcome : ReportOutcome) : Prop where
  rules : ∀ rule ∈ outcome.rules, rule = none
  whole : ∀ text ∈ outcome.texts, text.Whole

/-- The summary breaks no rule, its texts are whole and its outcomes fit. -/
structure FinalizeSummary.Fit (summary : FinalizeSummary) : Prop where
  rules : ∀ rule ∈ summary.rules, rule = none
  whole : summary.buildRoot.Whole ∧ summary.stagingDirectory.Whole
  outcomes : ∀ outcome ∈ summary.outcomes, outcome.Fit

/-- The outcomes of the summary fit. -/
structure ReportSummary.Fit (summary : ReportSummary) : Prop where
  merges : ∀ outcome ∈ summary.merges, outcome.Fit
  reports : ∀ outcome ∈ summary.reports, outcome.Fit

/-! ## Kinds of records -/

section Texts

variable {room : Nat} {texts : List LooseText} (hwhole : ∀ text ∈ texts, text.Whole)

include hwhole

lemma restorable_text {s : LooseText} (h : s ∈ texts) : Restorable room (.text s) :=
  .text (hwhole s h)

lemma restorable_text? {s : Option LooseText} (h : s.toList ⊆ texts) :
    Restorable room (.ofText? s) :=
  restorable_ofText? fun text htext => hwhole text (h (Option.mem_toList.2 htext))

end Texts

lemma restorable_name {room : Nat} (name : String) : Restorable room (.text name) :=
  .text (LooseText.whole_ofString name)

/-- The outcomes of finalization. -/
lemma agrees_artifact (room : Nat) :
    Agrees (room + 1) ArtifactOutcome.toJson ArtifactOutcome.read ArtifactOutcome.Fit where
  restorable {outcome} fit := by
    refine restorable_record [("functions_neutralized", .integer outcome.neutralized),
      ("ir_path", .ofText? outcome.irPath), ("message", .text outcome.message),
      ("module_path", .text outcome.modulePath), ("name", .text outcome.name),
      ("object_path", .ofText? outcome.objectPath), ("status", .text outcome.status.name)]
      (by simp) ?_
    simp only [List.forall_mem_cons, List.not_mem_nil, false_imp_iff, implies_true, and_true]
    refine ⟨.integer fit.short, restorable_text? fit.whole ?_, restorable_text fit.whole ?_,
      restorable_text fit.whole ?_, restorable_text fit.whole ?_, restorable_text? fit.whole ?_,
      restorable_name _⟩
    all_goals grind [ArtifactOutcome.texts]
  read_write {outcome} fit := by
    have hstatus := readChoice_name (ArtifactStatus.ofName?_name outcome.status)
    simp only [ArtifactOutcome.read, ArtifactOutcome.toJson, readFields, sourceOf?,
      Source.required, Source.optional, get?_cons, String.reduceEq, if_false, if_true, readText,
      display_text, readText?_ofText?, readInteger, hstatus, Reading.within]
    exact check_ok fit.rules
  fit {payload outcome} hpayload h := by
    simp only [ArtifactOutcome.read, readFields] at h
    split at h
    · next source hsource =>
      have hbounded := bounded_of_sourceOf? hpayload hsource
      obtain ⟨hfields, hrules⟩ := ok_of_check h
      obtain ⟨_, message, hfields₆, hmessage, houtcome⟩ := ok_of_seq hfields
      obtain ⟨_, count, hfields₅, hcount, rfl⟩ := ok_of_seq hfields₆
      obtain ⟨_, objectPath, hfields₄, hobject, rfl⟩ := ok_of_seq hfields₅
      obtain ⟨_, irPath, hfields₃, hir, rfl⟩ := ok_of_seq hfields₄
      obtain ⟨_, status, hfields₂, hstatus, rfl⟩ := ok_of_seq hfields₃
      obtain ⟨_, modulePath, hfields₁, hmodule, rfl⟩ := ok_of_seq hfields₂
      obtain ⟨name, hname, rfl⟩ := ok_of_map hfields₁
      subst houtcome
      refine ⟨hrules, ?_, isShort_of_optional hbounded (by decide) hcount⟩
      simp only [ArtifactOutcome.texts, List.forall_mem_append, List.forall_mem_cons,
        List.not_mem_nil, false_imp_iff, implies_true, and_true, Option.mem_toList]
      exact ⟨⟨⟨whole_of_required hbounded hname, whole_of_required hbounded hmodule,
        whole_of_optional hbounded (LooseText.whole_ofString "") hmessage⟩,
        whole_of_optional? hbounded hir⟩, whole_of_optional? hbounded hobject⟩
    · cases h

/-- The outcomes of merging. -/
lemma agrees_merge (room : Nat) :
    Agrees (room + 1) MergeOutcome.toJson MergeOutcome.read MergeOutcome.Fit where
  restorable {outcome} fit := by
    refine restorable_record [("message", .text outcome.message),
      ("name", .text outcome.name), ("profile_path", .text outcome.profilePath),
      ("sample_count", .integer outcome.sampleCount), ("status", .text outcome.status.name)]
      (by simp) ?_
    simp only [List.forall_mem_cons, List.not_mem_nil, false_imp_iff, implies_true, and_true]
    refine ⟨restorable_text fit.whole ?_, restorable_text fit.whole ?_,
      restorable_text fit.whole ?_, .integer fit.short, restorable_name _⟩
    all_goals simp [MergeOutcome.texts]
  read_write {outcome} fit := by
    have hstatus := readChoice_name (MergeStatus.ofName?_name outcome.status)
    simp only [MergeOutcome.read, MergeOutcome.toJson, readFields, sourceOf?, Source.required,
      Source.optional, get?_cons, String.reduceEq, if_false, if_true, readText, display_text,
      readInteger, hstatus, Reading.within]
    exact check_ok fit.rules
  fit {payload outcome} hpayload h := by
    simp only [MergeOutcome.read, readFields] at h
    split at h
    · next source hsource =>
      have hbounded := bounded_of_sourceOf? hpayload hsource
      obtain ⟨hfields, hrules⟩ := ok_of_check h
      obtain ⟨_, message, hfields₄, hmessage, houtcome⟩ := ok_of_seq hfields
      obtain ⟨_, status, hfields₃, hstatus, rfl⟩ := ok_of_seq hfields₄
      obtain ⟨_, profilePath, hfields₂, hprofile, rfl⟩ := ok_of_seq hfields₃
      obtain ⟨_, count, hfields₁, hcount, rfl⟩ := ok_of_seq hfields₂
      obtain ⟨name, hname, rfl⟩ := ok_of_map hfields₁
      subst houtcome
      refine ⟨hrules, ?_, isShort_of_required hbounded hcount⟩
      simp only [MergeOutcome.texts, List.forall_mem_cons, List.not_mem_nil, false_imp_iff,
        implies_true, and_true]
      exact ⟨whole_of_required hbounded hname, whole_of_required hbounded hprofile,
        whole_of_optional hbounded (LooseText.whole_ofString "") hmessage⟩
    · cases h

/-- The outcomes of reporting. -/
lemma agrees_report (room : Nat) :
    Agrees (room + 1) ReportOutcome.toJson ReportOutcome.read ReportOutcome.Fit where
  restorable {outcome} fit := by
    refine restorable_record [("message", .text outcome.message),
      ("name", .text outcome.name), ("object_path", .ofText? outcome.objectPath),
      ("profile_path", .ofText? outcome.profilePath),
      ("report_dir", .ofText? outcome.reportDirectory), ("state", .text outcome.state.name)]
      (by simp) ?_
    simp only [List.forall_mem_cons, List.not_mem_nil, false_imp_iff, implies_true, and_true]
    refine ⟨restorable_text fit.whole ?_, restorable_text fit.whole ?_,
      restorable_text? fit.whole ?_, restorable_text? fit.whole ?_, restorable_text? fit.whole ?_,
      restorable_name _⟩
    all_goals grind [ReportOutcome.texts]
  read_write {outcome} fit := by
    have hstate := readChoice_name (ReportState.ofName?_name outcome.state)
    simp only [ReportOutcome.read, ReportOutcome.toJson, readFields, sourceOf?, Source.required,
      Source.optional, get?_cons, String.reduceEq, if_false, if_true, readText, display_text,
      readText?_ofText?, hstate, Reading.within]
    exact check_ok fit.rules
  fit {payload outcome} hpayload h := by
    simp only [ReportOutcome.read, readFields] at h
    split at h
    · next source hsource =>
      have hbounded := bounded_of_sourceOf? hpayload hsource
      obtain ⟨hfields, hrules⟩ := ok_of_check h
      obtain ⟨_, message, hfields₅, hmessage, houtcome⟩ := ok_of_seq hfields
      obtain ⟨_, directory, hfields₄, hdirectory, rfl⟩ := ok_of_seq hfields₅
      obtain ⟨_, objectPath, hfields₃, hobject, rfl⟩ := ok_of_seq hfields₄
      obtain ⟨_, profilePath, hfields₂, hprofile, rfl⟩ := ok_of_seq hfields₃
      obtain ⟨_, state, hfields₁, hstate, rfl⟩ := ok_of_seq hfields₂
      obtain ⟨name, hname, rfl⟩ := ok_of_map hfields₁
      subst houtcome
      refine ⟨hrules, ?_⟩
      simp only [ReportOutcome.texts, List.forall_mem_append, List.forall_mem_cons,
        List.not_mem_nil, false_imp_iff, implies_true, and_true, Option.mem_toList]
      exact ⟨⟨⟨⟨whole_of_required hbounded hname,
        whole_of_optional hbounded (LooseText.whole_ofString "") hmessage⟩,
        whole_of_optional? hbounded hprofile⟩, whole_of_optional? hbounded hobject⟩,
        whole_of_optional? hbounded hdirectory⟩
    · cases h

/-- Summaries of finalization. -/
lemma agrees_finalize (room : Nat) : Agrees (room + 3) FinalizeSummary.toJson
    (readFields FinalizeSummary.ofSource) FinalizeSummary.Fit where
  restorable {summary} fit := by
    refine restorable_record [("build_root", .text summary.buildRoot),
      ("outcomes", .list (summary.outcomes.map ArtifactOutcome.toJson)),
      ("staging_dir", .text summary.stagingDirectory)] (by simp) ?_
    simp only [List.forall_mem_cons, List.not_mem_nil, false_imp_iff, implies_true, and_true]
    exact ⟨.text fit.whole.1, (agrees_artifact room).restorable_list fit.outcomes,
      .text fit.whole.2⟩
  read_write {summary} fit := by
    have houtcomes := (agrees_artifact room).readList_write fit.outcomes
    simp only [FinalizeSummary.ofSource, FinalizeSummary.toJson, readFields, sourceOf?,
      Source.required, Source.optional, get?_cons, String.reduceEq, if_false, if_true, readText,
      display_text, houtcomes, Reading.within]
    exact check_ok fit.rules
  fit {payload summary} hpayload h := by
    simp only [readFields] at h
    split at h
    · next source hsource =>
      have hbounded := bounded_of_sourceOf? hpayload hsource
      obtain ⟨hfields, hrules⟩ := ok_of_check h
      obtain ⟨_, outcomes, hfields₂, houtcomes, hsummary⟩ := ok_of_seq hfields
      obtain ⟨_, directory, hfields₁, hdirectory, rfl⟩ := ok_of_seq hfields₂
      obtain ⟨buildRoot, hroot, rfl⟩ := ok_of_map hfields₁
      subst hsummary
      refine ⟨hrules, ⟨whole_of_required hbounded hroot, whole_of_required hbounded hdirectory⟩, ?_⟩
      obtain rfl | ⟨value, hvalue, hread⟩ := Source.exists_of_optional hbounded houtcomes
      · exact List.forall_mem_nil _
      · exact (agrees_artifact room).fit_of_readList hvalue hread
    · cases h

/-- Summaries of reporting. -/
lemma agrees_reporting (room : Nat) : Agrees (room + 3) ReportSummary.toJson
    (readFields ReportSummary.ofSource) ReportSummary.Fit where
  restorable {summary} fit := by
    refine restorable_record [("merges", .list (summary.merges.map MergeOutcome.toJson)),
      ("reports", .list (summary.reports.map ReportOutcome.toJson))] (by simp) ?_
    simp only [List.forall_mem_cons, List.not_mem_nil, false_imp_iff, implies_true, and_true]
    exact ⟨(agrees_merge room).restorable_list fit.merges,
      (agrees_report room).restorable_list fit.reports⟩
  read_write {summary} fit := by
    have hmerges := (agrees_merge room).readList_write fit.merges
    have hreports := (agrees_report room).readList_write fit.reports
    simp only [ReportSummary.ofSource, ReportSummary.toJson, readFields, sourceOf?,
      Source.optional, get?_cons, String.reduceEq, if_false, if_true, hmerges, hreports,
      Reading.within]
    rfl
  fit {payload summary} hpayload h := by
    simp only [readFields] at h
    split at h
    · next source hsource =>
      have hbounded := bounded_of_sourceOf? hpayload hsource
      obtain ⟨_, reports, hfields₁, hreports, hsummary⟩ := ok_of_seq h
      obtain ⟨merges, hmerges, rfl⟩ := ok_of_map hfields₁
      subst hsummary
      constructor
      · obtain rfl | ⟨value, hvalue, hread⟩ := Source.exists_of_optional hbounded hmerges
        · exact List.forall_mem_nil _
        · exact (agrees_merge room).fit_of_readList hvalue hread
      · obtain rfl | ⟨value, hvalue, hread⟩ := Source.exists_of_optional hbounded hreports
        · exact List.forall_mem_nil _
        · exact (agrees_report room).fit_of_readList hvalue hread
    · cases h

/-! ## Files -/

lemma unifyLineFeeds_of_notMem : ∀ {text : List Char}, '\r' ∉ text → Text.unifyLineFeeds text = text
  | [], _ => rfl
  | c :: rest, h => by
      obtain ⟨hc, hrest⟩ := not_or.1 (mt List.mem_cons.2 h)
      rw [Text.unifyLineFeeds.eq_3 _ _ fun _ heq => absurd heq.symm hc, if_neg (Ne.symm hc),
        unifyLineFeeds_of_notMem hrest]

section Files

variable {α : Type} {depth : Nat} {write : α → Json} {ofSource : Source → Reading α}
  {Fit : α → Prop} (agrees : Agrees depth write (readFields ofSource) Fit) {summary : α}

include agrees

/-- The text of a summary is in ASCII. -/
lemma decodeText?_summaryText (fit : Fit summary) :
    Text.decodeText? (Text.octetsOf (summaryText (write summary))) =
      some (summaryText (write summary)) := by
  refine Text.Glyph.decodeText?_ascii fun c hc => ?_
  obtain rfl | hprintable := isPlain_pretty (agrees.restorable fit) c hc
  · decide
  · omega

/-- **A summary that fits is loaded from its own text.** -/
lemma ofText_summaryText (fit : Fit summary) :
    ofText depth ofSource (summaryText (write summary)) = .ok summary := by
  have hreturn : '\r' ∉ (summaryText (write summary)).toList := fun hmem =>
    absurd (isPlain_pretty (agrees.restorable fit) '\r' hmem) (by decide)
  have hread := read_pretty (agrees.restorable fit)
  have hwritten := agrees.read_write fit
  rw [ofText, unifyLineFeeds_of_notMem hreturn, summaryText, hread]
  simp only [ofPayload]
  simp only [readFields] at hwritten
  split at hwritten
  · next source hsource => rw [hsource]; simp only [hwritten]
  · cases hwritten

/-- **A summary that was loaded fits.** -/
lemma fit_of_ofText {text : String} (h : ofText depth ofSource text = .ok summary) :
    Fit summary := by
  simp only [ofText] at h
  split at h
  · cases h
  · next payload hread =>
    refine agrees.fit (bounded_of_read hread) ?_
    simp only [ofPayload] at h
    split at h
    · cases h
    · next source hsource =>
      simp only [readFields, hsource]
      split at h
      · next found => exact Except.ok.inj h ▸ found
      · cases h

end Files

/-! ## The round trip -/

/-- Storing and loading summaries of one kind are inverse to each other. -/
structure RoundTrip {α : Type} (write : α → Json) (load : String → Except LoadFault α)
    (Fit : α → Prop) : Prop where
  /-- The octets of a stored summary are those of its text. -/
  decoded : ∀ summary, Fit summary →
    Text.decodeText? (Text.octetsOf (summaryText (write summary))) =
      some (summaryText (write summary))
  /-- A summary that fits is loaded as it was stored. -/
  loaded : ∀ summary, Fit summary → load (summaryText (write summary)) = .ok summary
  /-- Whatever was loaded fits. -/
  fit : ∀ text summary, load text = .ok summary → Fit summary
  /-- Whatever was loaded is loaded again after it was stored, and its text stays the same. -/
  again : ∀ text summary, load text = .ok summary →
    ∃ other, load (summaryText (write summary)) = .ok other ∧ other = summary ∧
      summaryText (write other) = summaryText (write summary)

lemma RoundTrip.of_agrees {α : Type} {depth : Nat} {write : α → Json}
    {ofSource : Source → Reading α} {Fit : α → Prop}
    (agrees : Agrees depth write (readFields ofSource) Fit) :
    RoundTrip write (ofText depth ofSource) Fit where
  decoded _ fit := decodeText?_summaryText agrees fit
  loaded _ fit := ofText_summaryText agrees fit
  fit _ _ h := fit_of_ofText agrees h
  again _ summary h := ⟨summary, ofText_summaryText agrees (fit_of_ofText agrees h), rfl, rfl⟩

/-- **Summaries of both kinds survive being stored and loaded**, with every text in them, and what
was loaded from any text keeps all rules and is stored and loaded again without change. -/
theorem summaries_round_trip (room : Nat) :
    RoundTrip FinalizeSummary.toJson (FinalizeSummary.ofText (room + 3)) FinalizeSummary.Fit ∧
      RoundTrip ReportSummary.toJson (ReportSummary.ofText (room + 3)) ReportSummary.Fit :=
  ⟨.of_agrees (agrees_finalize _), .of_agrees (agrees_reporting _)⟩

section Example

/-- A summary whose texts hold quotes, a control, a character beyond U+FFFF and a half alone. -/
def oddSummary : ReportSummary :=
  ⟨[⟨⟨[.char '"', .half ⟨5, by decide⟩, .char '\\']⟩, 3, "/w/\u0000\n", .failed,
      ⟨[.char (Char.ofNat 0x1F600)]⟩⟩],
   [⟨"a/b", .failed, some "/w/p", none, some "/w/r", ""⟩]⟩

/-- A text with a number for a name and a numeral for a count. -/
def coercedText : String :=
  "\x7b\"merges\": [\x7b\"name\": 7, \"sample_count\": \" 1_0\", \"status\": \"merged\", " ++
    "\"profile_path\": \"/p\"\x7d]\x7d"

/-- The odd summary is loaded as it was stored, and what is loaded from a text with values of other
types fits. -/
theorem round_trip_oddSummary :
    ReportSummary.ofText 1000 (summaryText oddSummary.toJson) = .ok oddSummary ∧
      ReportSummary.ofText 1000 coercedText = .ok ⟨[⟨"7", 10, "/p", .merged, ""⟩], []⟩ ∧
      ReportSummary.Fit ⟨[⟨"7", 10, "/p", .merged, ""⟩], []⟩ := by
  have hcoerced : ReportSummary.ofText 1000 coercedText =
      .ok ⟨[⟨"7", 10, "/p", .merged, ""⟩], []⟩ := by
    decide +kernel
  have hodd : oddSummary.Fit := by
    refine ⟨?_, ?_⟩
    · intro outcome houtcome
      obtain rfl := List.mem_singleton.1 houtcome
      exact ⟨by decide +kernel, by decide +kernel, by decide +kernel⟩
    · intro outcome houtcome
      obtain rfl := List.mem_singleton.1 houtcome
      exact ⟨by decide +kernel, by decide +kernel⟩
  exact ⟨(summaries_round_trip 997).2.loaded _ hodd, hcoerced,
    (summaries_round_trip 997).2.fit _ _ hcoerced⟩

end Example

end WasmCoverage
