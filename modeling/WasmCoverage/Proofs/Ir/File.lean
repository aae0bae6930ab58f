import WasmCoverage.Ir.File
import WasmCoverage.Proofs.Disk.Directories
import WasmCoverage.Proofs.Text.Utf8

/-!
# Neutralized files

What is neutralized is a text, and what is kept is octets.  A cut of the text is a cut of the
octets (`Cuts.of_neutralize`): reading and writing lose nothing, so the octets of the segments, put
together again in order, are those of the file, whatever they encode.  The stub that replaces a
body is ASCII.

**`neutralizeFile_spec`** says what a run on files does.  It reads the source, and where that fails
or the text cannot be cut nothing has happened to the disk.  Otherwise it makes the directories of
the target, if need be, and writes the one file.

The fault of a source that cannot be read is one of the transformation, unless the path of the
source has a NUL in it: that is no refusal of the system and is passed on as it is.
-/

namespace WasmCoverage

open WasmCoverage.Text

/-! ## Files that can be written -/

namespace Disk

variable {disk disk' : Disk} {path target : Path} {place : Location} {data : Octets}

/-- The path leads to a place where a file can be put: there is nothing, or a file. -/
structure Accepts (disk : Disk) (path : Path) (place : Location) : Prop where
  noNul : hasNul path = false
  leads : disk.find path true = .ok place
  plain : Plain (disk.node? place)

/-- A file can be written once the directories that it lies in are made. -/
def Writable (disk : Disk) (target : Path) : Prop :=
  ∃ made place, Ends (makeDirectories target.parent) disk (.ok ()) made ∧ made.Accepts target place

/-- The directories of the target were made, where they were missing, and the data was put where
it leads.  Nothing else happened. -/
structure Stores (disk : Disk) (target : Path) (data : Octets) (made : Disk) (place : Location)
    (after : Disk) : Prop where
  directories : Ends (makeDirectories target.parent) disk (.ok ()) made
  accepts : made.Accepts target place
  only : Refiles (· = place) made after
  content : after.content? target = some data

/-- A place where a file can be put takes any data. -/
lemma Accepts.exists_ends_write (h : disk.Accepts path place) (data : Octets) :
    ∃ disk', Ends (write path data) disk (.ok ()) disk' := by
  rcases h.plain with hnone | ⟨old, executable, hfile⟩
  · refine ⟨disk.put place (.file data false),
      ends_locate_bind_ok.2 ⟨place, ⟨h.noNul, h.leads⟩, ends_get_bind.2 ?_⟩⟩
    rw [hnone]
    exact ends_modify.2 ⟨rfl, rfl⟩
  · refine ⟨disk.put place (.file data executable),
      ends_locate_bind_ok.2 ⟨place, ⟨h.noNul, h.leads⟩, ends_get_bind.2 ?_⟩⟩
    rw [hfile]
    exact ends_modify.2 ⟨rfl, rfl⟩

/-- What was written was put where the path leads. -/
lemma accepts_of_write (h : Ends (write path data) disk (.ok ()) disk') :
    ∃ place, disk.Accepts path place ∧ Refiles (· = place) disk disk' := by
  rcases write_spec h with ⟨⟨error, herror⟩, -⟩ | ⟨-, hnul, place, executable, hfind, hplain, rfl⟩
  · cases herror
  · exact ⟨place, ⟨hnul, hfind, hplain⟩, refiles_put hplain data executable⟩

end Disk

namespace Ir

open Disk

variable {disk disk' : Disk} {source target : Path} {data : Octets} {w w' : World}

/-- **A file is written with its directories** exactly if it can be. -/
theorem exists_ends_writeWithDirectories : disk.Writable target ↔
    ∃ disk', Ends (writeWithDirectories target data) disk (.ok ()) disk' := by
  constructor
  · rintro ⟨made, place, hmade, haccepts⟩
    obtain ⟨disk', hwrite⟩ := haccepts.exists_ends_write data
    exact ⟨disk', hmade.bind hwrite⟩
  · rintro ⟨disk', h⟩
    obtain ⟨⟨⟩, made, hmade, hwrite⟩ := ends_bind_ok.1 h
    obtain ⟨place, haccepts, -⟩ := accepts_of_write hwrite
    exact ⟨made, place, hmade, haccepts⟩

lemma stores_of_writeWithDirectories
    (h : Ends (writeWithDirectories target data) disk (.ok ()) disk') :
    ∃ made place, disk.Stores target data made place disk' := by
  obtain ⟨⟨⟩, made, hmade, hwrite⟩ := ends_bind_ok.1 h
  obtain ⟨place, haccepts, honly⟩ := accepts_of_write hwrite
  exact ⟨made, place, hmade, haccepts, honly, content?_write hwrite⟩

/-! ## Octets of segments -/

namespace Segment

/-- The octets that a file has there. -/
def octets (part : Segment) : Octets :=
  Glyph.encode part.input

/-- The octets of the neutralized file there: the same, or for a body those of an ASCII text. -/
def written : Segment → Octets
  | kept text => Glyph.encode text
  | body _ inline => octetsOf ((if inline then "\n" else "") ++ "start:\n  unreachable\n")

lemma encode_neutralized (part : Segment) : Glyph.encode part.neutralized = part.written := by
  cases part with
  | kept text => rfl
  | body text inline =>
      simp only [neutralized, written]
      cases inline <;> decide +kernel

lemma encode_flatMap (f : Segment → List Glyph) (parts : List Segment) :
    Glyph.encode (parts.flatMap f) = parts.flatMap fun part => Glyph.encode (f part) :=
  List.flatMap_assoc

/-- No glyph is new but the characters of the stub. -/
lemma writable_neutralized {part : Segment} (h : ∀ glyph ∈ part.input, glyph.Writable) :
    ∀ glyph ∈ part.neutralized, glyph.Writable := by
  cases part with
  | kept text => exact h
  | body text inline =>
      simp only [neutralized]
      cases inline <;> decide +kernel

end Segment

/-- The octets `data` are cut into some parts, and `out` are the same octets with the stub in the
place of every body. -/
structure Cuts (parts : List Segment) (data out : Octets) : Prop where
  segments : segments (Glyph.decode data) = .ok parts
  octets : parts.flatMap Segment.octets = data
  written : parts.flatMap Segment.written = out

/-- **What is neutralized as a text is neutralized octet for octet**, and a strict writer writes
it. -/
theorem Cuts.of_neutralize {result : Neutralized}
    (h : neutralize (Glyph.decode data) = .ok result) : ∃ parts,
      Cuts parts data (Glyph.encode result.text) ∧ result.count = parts.countP Segment.isBody ∧
        Glyph.encode? result.text = some (Glyph.encode result.text) := by
  obtain ⟨parts, hparts, hresult⟩ := bind_eq_ok_iff.1 h
  obtain rfl := (Except.ok.inj hresult).symm
  have hinput := input_segments hparts
  refine ⟨parts, ⟨hparts, ?_, ?_⟩, rfl, Glyph.encode?_eq_some.2 ⟨?_, rfl⟩⟩
  · calc parts.flatMap Segment.octets
        = Glyph.encode (parts.flatMap Segment.input) := (Segment.encode_flatMap _ _).symm
      _ = data := by rw [hinput, Glyph.encode_decode]
  · calc parts.flatMap Segment.written
        = parts.flatMap fun part => Glyph.encode part.neutralized := by
          simp only [Segment.encode_neutralized]
      _ = Glyph.encode (parts.flatMap Segment.neutralized) := (Segment.encode_flatMap _ _).symm
  · intro glyph hglyph
    obtain ⟨part, hpart, hmem⟩ := List.mem_flatMap.1 hglyph
    refine Segment.writable_neutralized (fun g hg => ?_) glyph hmem
    refine Glyph.writable_of_mem_decode data g ?_
    rw [← hinput]
    exact List.mem_flatMap.2 ⟨part, hpart, hg⟩

/-! ## Runs -/

/-- The fault of a source that cannot be read. -/
def unreadable (source : Path) : Disk.Error → Fault :=
  passedOn fun error => .transform (.unreadable source error)

lemma neutralizeOctets_of_error {fault : CutFault}
    (h : neutralize (Glyph.decode data) = .error fault) : neutralizeOctets data = .error fault := by
  rw [neutralizeOctets, h]
  rfl

lemma neutralizeOctets_of_ok {result : Neutralized}
    (h : neutralize (Glyph.decode data) = .ok result) :
    neutralizeOctets data = .ok (Glyph.encode result.text, result.count) := by
  rw [neutralizeOctets, h]
  rfl

lemma ends_neutralizeFile_of_unreadable {error : Disk.Error}
    (h : Ends (read source) w.disk (.error error) w.disk) :
    Ends (neutralizeFile source target) w (.error (unreadable source error)) w :=
  Ends.bind_error (ends_onDiskOr.2 ⟨_, _, h, rfl, rfl⟩)

lemma ends_neutralizeFile_of_malformed {fault : CutFault}
    (h : Ends (read source) w.disk (.ok data) w.disk)
    (hfault : neutralize (Glyph.decode data) = .error fault) :
    Ends (neutralizeFile source target) w (.error (.transform (.malformed source fault))) w := by
  refine Ends.bind (ends_onDiskOr_ok.2 ⟨_, h, rfl⟩) ?_
  rw [neutralizeOctets_of_error hfault]
  exact ends_throw.2 ⟨rfl, rfl⟩

/-- **Where the text can be cut the run succeeds as the writing does.** -/
lemma ends_neutralizeFile_ok {result : Neutralized} {count : Nat}
    (h : Ends (read source) w.disk (.ok data) w.disk)
    (hresult : neutralize (Glyph.decode data) = .ok result) :
    Ends (neutralizeFile source target) w (.ok count) w' ↔ count = result.count ∧ ∃ disk,
      Ends (writeWithDirectories target (Glyph.encode result.text)) w.disk (.ok ()) disk ∧
        w' = { w with disk } := by
  have hread : Ends (onDiskOr (fun error => .transform (.unreadable source error)) (read source))
      w (.ok data) w :=
    ends_onDiskOr_ok.2 ⟨_, h, rfl⟩
  constructor
  · intro hrun
    obtain ⟨octets, t, hfirst, hrest⟩ := ends_bind_ok.1 hrun
    obtain ⟨hoctets, rfl⟩ := hfirst.unique hread
    obtain rfl := Except.ok.inj hoctets
    rw [neutralizeOctets_of_ok hresult] at hrest
    obtain ⟨⟨⟩, t', hwrite, hlast⟩ := ends_bind_ok.1 hrest
    obtain ⟨hcount, rfl⟩ := ends_pure.1 hlast
    obtain ⟨disk, hdisk, rfl⟩ := ends_onDiskOr_ok.1 hwrite
    exact ⟨Except.ok.inj hcount, disk, hdisk, rfl⟩
  · rintro ⟨rfl, disk, hdisk, rfl⟩
    refine hread.bind ?_
    rw [neutralizeOctets_of_ok hresult]
    exact (ends_onDiskOr_ok.2 ⟨disk, hdisk, rfl⟩).bind (ends_pure.2 ⟨rfl, rfl⟩)

/-- The source cannot be read because its path has a NUL in it, or the system refuses. -/
lemma ends_read_error {error : Disk.Error} (h : Ends (read source) disk (.error error) disk') :
    disk' = disk ∧ (hasNul source = true ∧ error = .nullByte ∨
      hasNul source = false ∧ error.isRefusal = true) := by
  refine ⟨(respects_read _ _ _ h).symm, ?_⟩
  obtain ⟨_, hlocated, heq, -⟩ | ⟨location, ⟨hnul, -⟩, hlast⟩ :=
    ends_locate_bind.1 (ends_get_bind.1 h)
  · obtain rfl := Except.error.inj heq
    refine (located_eq_error.1 hlocated).imp_right fun ⟨hnul, cause, _, heq⟩ => ⟨hnul, ?_⟩
    rw [heq]
    rfl
  · refine Or.inr ⟨hnul, ?_⟩
    split at hlast
    · cases (ends_pure.1 hlast).1
    · rw [Except.error.inj (ends_refuse.1 hlast).1]
      rfl
    · rw [Except.error.inj (ends_refuse.1 hlast).1]
      rfl

/-- **A file is neutralized octet for octet, or not at all.**  Where the source can be read and the
target written, the run succeeds exactly if the text of the octets can be neutralized.  Where it
succeeds, the octets of the source are cut into parts, those of the target are the same with the
stub in the place of every body, and nothing but the target and the directories that it lies in is
new.  Where the text cannot be cut, or the source cannot be read, nothing happens at all. -/
theorem neutralizeFile_spec (source target : Path) (w : World) :
    (∀ data, Ends (read source) w.disk (.ok data) w.disk →
      (w.disk.Writable target →
        ((∃ count w', Ends (neutralizeFile source target) w (.ok count) w') ↔
          ∃ result, neutralize (Glyph.decode data) = .ok result)) ∧
      (∀ count w', Ends (neutralizeFile source target) w (.ok count) w' →
        ∃ result parts out made place, neutralize (Glyph.decode data) = .ok result ∧
          count = result.count ∧ Glyph.encode? result.text = some out ∧ Cuts parts data out ∧
          count = parts.countP Segment.isBody ∧ w.disk.Stores target out made place w'.disk ∧
          w' = { w with disk := w'.disk }) ∧
      (∀ fault, neutralize (Glyph.decode data) = .error fault →
        Ends (neutralizeFile source target) w (.error (.transform (.malformed source fault))) w)) ∧
    (∀ error, Ends (read source) w.disk (.error error) w.disk →
      Ends (neutralizeFile source target) w
        (.error (if hasNul source then .disk .nullByte else .transform (.unreadable source error)))
        w) := by
  refine ⟨fun data hread => ⟨fun hwritable => ?_, fun count w' h => ?_, fun fault hfault => ?_⟩,
    fun error herror => ?_⟩
  · constructor
    · rintro ⟨count, w', h⟩
      cases hresult : neutralize (Glyph.decode data) with
      | ok result => exact ⟨result, rfl⟩
      | error fault => cases (h.unique (ends_neutralizeFile_of_malformed hread hresult)).1
    · rintro ⟨result, hresult⟩
      obtain ⟨disk, hdisk⟩ := exists_ends_writeWithDirectories.1 hwritable
      exact ⟨_, _, (ends_neutralizeFile_ok hread hresult).2 ⟨rfl, disk, hdisk, rfl⟩⟩
  · cases hresult : neutralize (Glyph.decode data) with
    | error fault => cases (h.unique (ends_neutralizeFile_of_malformed hread hresult)).1
    | ok result =>
        obtain ⟨rfl, disk, hdisk, rfl⟩ := (ends_neutralizeFile_ok hread hresult).1 h
        obtain ⟨parts, hcuts, hcount, hencode⟩ := Cuts.of_neutralize hresult
        obtain ⟨made, place, hstores⟩ := stores_of_writeWithDirectories hdisk
        exact ⟨result, parts, _, made, place, rfl, rfl, hencode, hcuts, hcount, hstores, rfl⟩
  · exact ends_neutralizeFile_of_malformed hread hfault
  · have hrun : Ends (neutralizeFile source target) w (.error (unreadable source error)) w :=
      ends_neutralizeFile_of_unreadable herror
    obtain ⟨-, ⟨hnul, rfl⟩ | ⟨hnul, hrefusal⟩⟩ := ends_read_error herror
    · simpa [hnul, unreadable, passedOn, Disk.Error.isRefusal] using hrun
    · simpa [hnul, unreadable, passedOn, hrefusal] using hrun

/-! ## A file with octets astray

The source of the example has broken characters in the body of its function and after it, a
carriage return and a NUL.  All but the body is in the target. -/

section Astray

/-- The octets before the body, ending in the line feed of the header. -/
def sampleHeader : Octets :=
  octetsOf "define void @f() \x7b\r\n"

/-- The body: the first two octets of a character of three, and a line feed. -/
def sampleBody : Octets :=
  [0xE2, 0x82, 0x0A]

/-- What follows the body: its brace, and a comment of an overlong form and a NUL. -/
def sampleRest : Octets :=
  octetsOf "\x7d\n; " ++ [0xC0, 0x80, 0xFF, 0x00]

/-- A disk with such a file, `/t/a.ll`. -/
def sampleWorld : World where
  disk := { entries := [(["t"], .directory),
      (["a.ll", "t"], .file (sampleHeader ++ sampleBody ++ sampleRest) false)], here := [] }
  clock := ⟨2024, 5, 1, 0, 0, 0, 0⟩

/-- The file is neutralized into a directory that is not there yet. -/
theorem neutralizeFile_astray : ∃ w',
    Ends (neutralizeFile (.ofText "/t/a.ll") (.ofText "/o/a.ll")) sampleWorld (.ok 1) w' ∧
      w'.disk.content? (.ofText "/o/a.ll") =
        some (sampleHeader ++ octetsOf "start:\n  unreachable\n" ++ sampleRest) := by
  have hread : Ends (read (.ofText "/t/a.ll")) sampleWorld.disk
      (.ok (sampleHeader ++ sampleBody ++ sampleRest)) sampleWorld.disk := by
    decide +kernel
  have hwritable : sampleWorld.disk.Writable (.ofText "/o/a.ll") := by
    refine ⟨sampleWorld.disk.put ["o"] .directory, ["a.ll", "o"], ?_, ?_, ?_, Or.inl ?_⟩
    all_goals decide +kernel
  obtain ⟨hdata, -⟩ := neutralizeFile_spec (.ofText "/t/a.ll") (.ofText "/o/a.ll") sampleWorld
  obtain ⟨hiff, hspec, -⟩ := hdata _ hread
  obtain ⟨result, hresult, hcount, hencode⟩ : ∃ result, neutralize
      (Glyph.decode (sampleHeader ++ sampleBody ++ sampleRest)) = .ok result ∧ result.count = 1 ∧
      Glyph.encode? result.text =
        some (sampleHeader ++ octetsOf "start:\n  unreachable\n" ++ sampleRest) :=
    ⟨⟨Glyph.decode (sampleHeader ++ octetsOf "start:\n  unreachable\n" ++ sampleRest), 1⟩,
      by decide +kernel⟩
  obtain ⟨count, w', hrun⟩ := (hiff hwritable).2 ⟨result, hresult⟩
  obtain ⟨other, parts, out, made, place, hother, rfl, hout, -, -, hstores, -⟩ :=
    hspec count w' hrun
  obtain rfl := Except.ok.inj (hresult.symm.trans hother)
  obtain rfl := Option.some.inj (hencode.symm.trans hout)
  exact ⟨w', hcount ▸ hrun, hstores.content⟩

/-- **A source whose path has a NUL in it** cannot be read, and yet the fault of the run is none of
the transformation. -/
theorem not_transform_of_nul : ¬ ∀ (source target : Path) (w : World) (error : Disk.Error),
    Ends (read source) w.disk (.error error) w.disk →
      ∃ fault, Ends (neutralizeFile source target) w (.error (.transform fault)) w := by
  intro h
  obtain ⟨fault, hrun⟩ := h (.ofText "/t/a\x00b") (.ofText "/o/x.ll") sampleWorld .nullByte
    (by decide +kernel)
  have hfails : Ends (neutralizeFile (.ofText "/t/a\x00b") (.ofText "/o/x.ll")) sampleWorld
      (.error (.disk .nullByte)) sampleWorld := by
    decide +kernel
  cases (hrun.unique hfails).1

end Astray

end Ir

end WasmCoverage
