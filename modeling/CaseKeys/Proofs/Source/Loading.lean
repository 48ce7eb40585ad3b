import CaseKeys.Proofs.Text.Lines
import CaseKeys.Proofs.Text.Trim
import CaseKeys.Proofs.Text.Utf8
import CaseKeys.Source.CaseList

/-! Loading the case names of an input that holds some bytes. The bytes have to be UTF-8, and the
names do not depend on how the lines are ended, as long as the input knows the terminators. -/
namespace CaseKeys.Source
open Text Text.Utf8

/-- What is loaded from bytes, where lines end by `n`: from a file at any path, from a file that was
chosen among some inputs, and from the standard input, which no path and a single dash choose. -/
inductive Loads (bytes : List UInt8) : Newlines → Except LoadError (List String) → Prop where
  | file (path : Path) : Loads bytes .universal (fileNames path (.ok bytes))
  | chosen {inputs : Inputs} {path : Path} : ¬ path.isDash → inputs.file path = .ok bytes →
    Loads bytes .universal (loadNames inputs (some path))
  | standard {inputs : Inputs} : inputs.standard = bytes →
    Loads bytes inputs.newlines (loadNames inputs none)
  | dash {inputs : Inputs} {path : Path} : path.isDash → inputs.standard = bytes →
    Loads bytes inputs.newlines (loadNames inputs (some path))

/-- The names among some lines: those that, without the white space at their ends, are not empty and
do not begin with a number sign. -/
def namesAmong (lines : List (List Char)) : List String :=
  ((lines.map trimBlank).filter fun line => line ≠ [] ∧ line.head? ≠ some '#').map String.ofList

theorem Loads.eq {bytes : List UInt8} {n : Newlines} {loaded : Except LoadError (List String)}
    (h : Loads bytes n loaded) : loaded = decodeNames n bytes := by
  cases h with
  | file path => rfl
  | @chosen inputs path hd hr =>
    have hp : filePath? (some path) = some path := by simp [filePath?, hd]
    rw [loadNames, hp]
    simp only [hr, fileNames]
  | standard hs => rw [← hs]; rfl
  | @dash inputs path hd hs =>
    have hp : filePath? (some path) = none := by simp [filePath?, hd]
    rw [loadNames, hp, ← hs]

private theorem exists_of_decodeNames {n : Newlines} {bytes : List UInt8} {names : List String}
    (h : decodeNames n bytes = .ok names) : ∃ text, names = namesOf n text := by
  rw [decodeNames] at h
  split at h
  · next text _ => exact ⟨text, (Except.ok.inj h).symm⟩
  · cases h

/-- Names that were loaded are those of some text. -/
theorem exists_of_loadNames {inputs : Inputs} {input : Option Path} {names : List String}
    (h : loadNames inputs input = .ok names) : ∃ n text, names = namesOf n text := by
  rw [loadNames] at h
  split at h
  · exact ⟨_, exists_of_decodeNames h⟩
  · next path _ =>
    cases hr : inputs.file path with
    | ok bytes =>
      rw [hr] at h
      exact ⟨_, exists_of_decodeNames h⟩
    | error fault =>
      rw [hr] at h
      cases h

private theorem nameOnLine?_eq (line : List Char) :
    nameOnLine? line = if trimBlank line ≠ [] ∧ (trimBlank line).head? ≠ some '#' then
      some (String.ofList (trimBlank line)) else none := by
  rw [nameOnLine?]
  cases trimBlank line with
  | nil => rfl
  | cons c rest => by_cases hc : c = '#' <;> simp [hc]

private theorem filterMap_nameOnLine? (lines : List (List Char)) :
    lines.filterMap nameOnLine? = namesAmong lines := by
  induction lines with
  | nil => rfl
  | cons line others ih =>
    rw [namesAmong, List.map_cons, List.filterMap_cons, nameOnLine?_eq]
    by_cases h : trimBlank line ≠ [] ∧ (trimBlank line).head? ≠ some '#'
    · rw [if_pos h, List.filter_cons, if_pos (decide_eq_true h), List.map_cons, ih]
      rfl
    · rw [if_neg h, List.filter_cons, if_neg (by simpa using h), ih]
      rfl

theorem namesOf_eq (n : Newlines) (text : List Char) :
    namesOf n text = namesAmong (lines n text) :=
  filterMap_nameOnLine? (lines n text)

/-- A carriage return at the end of a line is white space. -/
private theorem nameOnLine?_append_return (line : List Char) :
    nameOnLine? (line ++ ['\r']) = nameOnLine? line := by
  have ht : trimBlank (line ++ ['\r']) = trimBlank line := by
    have hblank : ∀ c ∈ ['\r'], isBlank c := List.forall_mem_singleton.mpr (by decide)
    exact trim_pad (List.forall_mem_nil _) hblank line
  rw [nameOnLine?, nameOnLine?, ht]

theorem namesOf_written {n : Newlines} {terminated : List (Line n × Terminator)}
    (ht : ∀ p ∈ terminated, p.2.Ends n) (last : Option (Line n)) :
    namesOf n (written terminated last) = namesAmong (texts terminated last) := by
  rw [namesOf, namesOnLines, filterMap_lines_written rfl nameOnLine?_append_return ht,
    filterMap_nameOnLine?]

theorem decodeNames_encode (n : Newlines) (text : List Char) :
    decodeNames n (encode text) = .ok (namesOf n text) := by
  rw [decodeNames, decode_eq_ok_iff.mpr rfl]

/-- A loaded name: it stands on one line and is the whole of it. -/
structure IsName (n : Newlines) (name : String) : Prop where
  unbroken : ∀ c ∈ name.toList, c ≠ '\n' ∧ (n = .universal → c ≠ '\r')
  trimmed : trimBlank name.toList = name.toList
  nonempty : name.toList ≠ []
  noComment : name.toList.head? ≠ some '#'

theorem isName_of_mem {n : Newlines} {text : List Char} {name : String}
    (h : name ∈ namesOf n text) : IsName n name := by
  rw [namesOf_eq, namesAmong, List.mem_map] at h
  obtain ⟨trimmed, ht, rfl⟩ := h
  obtain ⟨hm, hk⟩ := List.mem_filter.mp ht
  obtain ⟨hn, hc⟩ := of_decide_eq_true hk
  obtain ⟨line, hl, rfl⟩ := List.mem_map.mp hm
  obtain ⟨before, after, hline, -, -⟩ := exists_eq_append_trim isBlank line
  refine ⟨fun c hmem => unbroken_of_mem_lines hl c ?_, ?_, ?_, ?_⟩
  · rw [String.toList_ofList] at hmem
    rw [hline]
    exact List.mem_append_left _ (List.mem_append_right _ hmem)
  · rw [String.toList_ofList]
    exact trim_trim isBlank line
  · rwa [String.toList_ofList]
  · rwa [String.toList_ofList]

/-- A name stands on one line of every text whose terminators it does not hold. -/
private theorem IsName.of_notMem {n m : Newlines} {name : String} (h : IsName n name)
    (hm : m = .universal → '\r' ∉ name.toList) : IsName m name :=
  ⟨fun c hc => ⟨(h.unbroken c hc).1, fun hu he => hm hu (he ▸ hc)⟩, h.trimmed, h.nonempty,
    h.noComment⟩

private theorem namesAmong_of_isName {n : Newlines} {names : List String}
    (h : ∀ name ∈ names, IsName n name) : namesAmong (names.map String.toList) = names := by
  have htrim : (names.map String.toList).map trimBlank = names.map String.toList := by
    rw [List.map_map]
    exact List.map_congr_left fun name hm => (h name hm).trimmed
  have hkeep : (names.map String.toList).filter (fun line => line ≠ [] ∧ line.head? ≠ some '#') =
      names.map String.toList := by
    refine List.filter_eq_self.mpr fun line hl => ?_
    obtain ⟨name, hm, rfl⟩ := List.mem_map.mp hl
    exact decide_eq_true ⟨(h name hm).nonempty, (h name hm).noComment⟩
  have hid : ∀ name : String, String.ofList name.toList = name := fun _ => String.ofList_toList
  rw [namesAmong, htrim, hkeep, List.map_map]
  simp only [Function.comp_def, hid, List.map_id']

/-- The text with one name to a line. -/
def listed (names : List String) (terminator : Terminator) : List Char :=
  names.flatMap fun name => name.toList ++ terminator.chars

theorem namesOf_listed {n : Newlines} {names : List String} (h : ∀ name ∈ names, IsName n name)
    {terminator : Terminator} (ht : terminator.Ends n) : namesOf n (listed names terminator) = names := by
  have hlines : ∃ terminated : List (Line n × Terminator),
      (∀ p ∈ terminated, p.2.Ends n) ∧ written terminated none = listed names terminator ∧
        texts terminated none = names.map String.toList := by
    refine ⟨names.attach.map fun name =>
      (⟨name.1.toList, (h name.1 name.2).unbroken⟩, terminator), ?_, ?_, ?_⟩
    · intro p hp
      obtain ⟨name, -, rfl⟩ := List.mem_map.mp hp
      exact ht
    · simp only [written, listed, List.flatMap_map, Option.toList_none, List.flatMap_nil,
        List.append_nil]
      exact (List.flatMap_subtype fun _ _ => rfl).trans (congrArg _ List.unattach_attach)
    · simp [texts, List.map_map, Function.comp_def]
  obtain ⟨terminated, hends, hw, htexts⟩ := hlines
  rw [← hw, namesOf_written hends, htexts, namesAmong_of_isName h]

/-- A byte order mark stays at the front of the first name. -/
private theorem exists_head?_namesAmong_mark (n : Newlines) (text : List Char) :
    ∃ name names, namesAmong (lines n ('\uFEFF' :: text)) = name :: names ∧
      name.toList.head? = some '\uFEFF' := by
  have hsplit : ∀ rest, ∃ line others,
      splitLines ('\uFEFF' :: rest) = ('\uFEFF' :: line) :: others := by
    intro rest
    rw [splitLines_cons (by decide)]
    cases splitLines rest with
    | nil => exact ⟨[], [], rfl⟩
    | cons line others => exact ⟨line, others, rfl⟩
  have hfirst : ∃ line others, lines n ('\uFEFF' :: text) = ('\uFEFF' :: line) :: others := by
    cases n with
    | lineFeed => exact hsplit text
    | universal =>
      rw [lines, unifyNewlines_cons (by decide)]
      exact hsplit (unifyNewlines text)
  obtain ⟨line, others, hl⟩ := hfirst
  have hhead : (trimBlank ('\uFEFF' :: line)).head? = some '\uFEFF' :=
    head?_trim_cons (by decide) line
  refine ⟨String.ofList (trimBlank ('\uFEFF' :: line)), namesAmong others, ?_, ?_⟩
  · have hname : nameOnLine? ('\uFEFF' :: line) =
        some (String.ofList (trimBlank ('\uFEFF' :: line))) := by
      rw [nameOnLine?_eq, if_pos ⟨fun hn => by simp [hn] at hhead, by simp [hhead]⟩]
    rw [hl, ← filterMap_nameOnLine?, List.filterMap_cons_some hname, filterMap_nameOnLine?]
  · rwa [String.toList_ofList]

/-- What is loaded does not depend on the line endings: lines, each with a terminator that ends it,
and at most one line after them load to the names among them. A file knows every terminator, and so
does a standard input where the system takes every newline for one; elsewhere the standard input does
not end its lines at a carriage return alone, and lines may hold one. Loaded names that are written one
to a line load to themselves, but for names that hold a carriage return where it ends a line. Files
give no such names. -/
theorem loadNames_written :
    (∀ (n : Newlines) (terminated : List (Line n × Terminator)) (last : Option (Line n)),
      (∀ p ∈ terminated, p.2.Ends n) → ∀ loaded, Loads (encode (written terminated last)) n loaded →
        loaded = .ok (namesAmong (texts terminated last))) ∧
    (∀ bytes n names, Loads bytes n (.ok names) → ∀ m terminator, terminator.Ends m →
      ∀ loaded, Loads (encode (listed names terminator)) m loaded →
        (loaded = .ok names ↔ (m = .universal → ∀ name ∈ names, '\r' ∉ name.toList))) ∧
    ∀ bytes names, Loads bytes .universal (.ok names) → ∀ name ∈ names, '\r' ∉ name.toList := by
  have hname : ∀ {bytes n names}, Loads bytes n (.ok names) → ∀ name ∈ names, IsName n name := by
    intro bytes n names h name hm
    obtain ⟨text, rfl⟩ := exists_of_decodeNames h.eq.symm
    exact isName_of_mem hm
  have hfile : ∀ bytes names, Loads bytes .universal (.ok names) →
      ∀ name ∈ names, '\r' ∉ name.toList := fun bytes names h name hm hc =>
    ((hname h name hm).unbroken '\r' hc).2 rfl rfl
  refine ⟨fun n terminated last ht loaded h => ?_, fun bytes n names hn m terminator ht loaded h => ?_,
    hfile⟩
  · rw [h.eq, decodeNames_encode, namesOf_written ht]
  · constructor
    · rintro rfl rfl
      exact hfile _ names h
    · intro hm
      have hnames : ∀ name ∈ names, IsName m name := fun name hmem =>
        (hname hn name hmem).of_notMem fun hu => hm hu name hmem
      rw [h.eq, decodeNames_encode, namesOf_listed hnames ht]

/-- A file at a path from the root, with an empty line lost behind a carriage return, a comment, a line
separator inside a name and a last line without terminator; its names are the same when they are ended
by carriage returns. And a standard input whose lines end at line feeds: one name holds a carriage
return, and comes back from the standard input but not from a file. -/
theorem loadNames_written_of_mixed_endings :
    let terminated : List (Line .universal × Terminator) :=
      [(⟨['a', ' '], by simp⟩, .carriageReturn), (⟨[], by simp⟩, .lineFeed),
        (⟨['#', 'b'], by simp⟩, .pair), (⟨['\t', 'c', '\u2028', 'd'], by simp⟩, .pair)]
    let last : Option (Line .universal) := some ⟨['e'], by simp⟩
    let path : Path := .ofString "/home/cases.txt"
    let names := ["a", "c\u2028d", "e"]
    let returned : List (Line .lineFeed × Terminator) :=
      [(⟨['a'], by simp⟩, .pair), (⟨['b', '\r', 'c'], by simp⟩, .lineFeed)]
    let inputs : Inputs := ⟨fun _ => .error .missing, encode (written returned none), .lineFeed⟩
    (∀ p ∈ terminated, p.2.Ends .universal) ∧
    fileNames path (.ok (encode (written terminated last))) = .ok names ∧
    fileNames path (.ok (encode (listed names .carriageReturn))) = .ok names ∧
    (∀ p ∈ returned, p.2.Ends .lineFeed) ∧
    loadNames inputs none = .ok ["a", "b\rc"] ∧
    loadNames { inputs with standard := encode (listed ["a", "b\rc"] .pair) } none =
      .ok ["a", "b\rc"] ∧
    fileNames path (.ok (encode (listed ["a", "b\rc"] .pair))) ≠ .ok ["a", "b\rc"] := by
  intro terminated last path names returned inputs
  obtain ⟨hwritten, hreload, hfile⟩ := loadNames_written
  have hends : ∀ p ∈ terminated, p.2.Ends .universal := fun _ _ => nofun
  have hreturned : ∀ p ∈ returned, p.2.Ends .lineFeed := by simp [returned, Terminator.Ends]
  have hnames : namesAmong (texts terminated last) = names := by decide +kernel
  have hothers : namesAmong (texts returned none) = ["a", "b\rc"] := by decide +kernel
  have hloaded : Loads (encode (written terminated last)) .universal _ := .file path
  have hread : Loads (encode (written returned none)) .lineFeed _ := @Loads.standard _ inputs rfl
  have hload : fileNames path (.ok (encode (written terminated last))) = .ok names :=
    (hwritten .universal terminated last hends _ hloaded).trans (congrArg _ hnames)
  have hstandard : loadNames inputs none = .ok ["a", "b\rc"] :=
    (hwritten .lineFeed returned none hreturned _ hread).trans (congrArg _ hothers)
  rw [hload] at hloaded
  rw [hstandard] at hread
  refine ⟨hends, hload, ?_, hreturned, hstandard, ?_, ?_⟩
  · exact (hreload _ _ names hloaded .universal .carriageReturn nofun _ (.file path)).mpr fun _ =>
      hfile _ names hloaded
  · have hback : Loads (encode (listed ["a", "b\rc"] .pair)) .lineFeed _ :=
      @Loads.standard _ { inputs with standard := encode (listed ["a", "b\rc"] .pair) } rfl
    exact (hreload _ _ _ hread .lineFeed .pair nofun _ hback).mpr nofun
  · intro heq
    have hno := (hreload _ _ _ hread .universal .pair nofun _ (.file path)).mp heq rfl
    exact hno "b\rc" (by simp) (by simp)

/-- A carriage return alone ends no line of a standard input whose lines end at line feeds: two lines
become one name there, which a file does not give back either. -/
theorem lone_return_ends_no_line :
    let terminated : List (Line .universal × Terminator) :=
      [(⟨['a'], by simp⟩, .carriageReturn), (⟨['b'], by simp⟩, .lineFeed)]
    let inputs : Inputs := ⟨fun _ => .error .missing, encode (written terminated none), .lineFeed⟩
    namesAmong (texts terminated none) = ["a", "b"] ∧
    loadNames inputs none = .ok ["a\rb"] ∧
    loadNames inputs none ≠ .ok (namesAmong (texts terminated none)) ∧
    fileNames (.ofString "cases.txt") (.ok (encode (listed ["a\rb"] .lineFeed))) ≠ .ok ["a\rb"] := by
  decide +kernel

/-- Bytes are accepted exactly when they are the encoding of a text. That text is the only one, the
names are those of its lines, ended as the input ends them, and a byte order mark at its front belongs
to the first of them. All other bytes are refused as undecodable. -/
theorem loadNames_eq_ok_iff_encoded {bytes : List UInt8} {n : Newlines}
    {loaded : Except LoadError (List String)} (h : Loads bytes n loaded) :
    (∀ names, loaded = .ok names ↔
      ∃ text, bytes = encode text ∧ names = namesAmong (lines n text)) ∧
    (∀ text other, bytes = encode text → bytes = encode other → text = other) ∧
    ((∃ fault, loaded = .error (.undecodable fault)) ↔ ∀ text, bytes ≠ encode text) ∧
    ∀ text, bytes = 0xEF :: 0xBB :: 0xBF :: encode text → ∃ name names,
      loaded = .ok (name :: names) ∧ name :: names = namesAmong (lines n ('\uFEFF' :: text)) ∧
        name.toList.head? = some '\uFEFF' := by
  have hencoded : ∀ text, bytes = encode text → loaded = .ok (namesAmong (lines n text)) := by
    rintro text rfl
    rw [h.eq, decodeNames_encode, namesOf_eq]
  have hrefused : (∀ text, bytes ≠ encode text) →
      ∃ fault, loaded = .error (.undecodable fault) := by
    intro hne
    rw [h.eq, decodeNames]
    cases hd : decode bytes with
    | ok text => exact absurd (decode_eq_ok_iff.mp hd) (hne text)
    | error fault => exact ⟨fault, rfl⟩
  refine ⟨fun names => ⟨fun hn => ?_, ?_⟩, ?_, ⟨?_, hrefused⟩, ?_⟩
  · by_cases he : ∃ text, bytes = encode text
    · obtain ⟨text, ht⟩ := he
      rw [hencoded text ht] at hn
      exact ⟨text, ht, (Except.ok.inj hn).symm⟩
    · obtain ⟨fault, hf⟩ := hrefused (not_exists.mp he)
      rw [hf] at hn
      cases hn
  · rintro ⟨text, ht, rfl⟩
    exact hencoded text ht
  · intro text other ht ho
    exact encode_injective (ht.symm.trans ho)
  · rintro ⟨fault, hf⟩ text ht
    rw [hencoded text ht] at hf
    cases hf
  · intro text ht
    obtain ⟨name, names, hn, hm⟩ := exists_head?_namesAmong_mark n text
    exact ⟨name, names, hn ▸ hencoded ('\uFEFF' :: text) ht, hn.symm, hm⟩

/-- A byte order mark and a carriage return on a standard input whose lines end at line feeds, and a
file that ends inside an encoded surrogate. -/
theorem loadNames_eq_ok_iff_encoded_of_mark_and_surrogate :
    let bytes : List UInt8 := [0xEF, 0xBB, 0xBF, 0x61, 0x0D, 0x62]
    let inputs : Inputs := ⟨fun _ => .error .missing, bytes, .lineFeed⟩
    let path : Path := .ofString "../cases.txt"
    let broken : List UInt8 := [0x61, 0x0A, 0xED, 0xA0, 0x80]
    Loads bytes .lineFeed (loadNames inputs none) ∧
    loadNames inputs none = .ok ["\uFEFFa\rb"] ∧
    Loads broken .universal (fileNames path (.ok broken)) ∧
    fileNames path (.ok broken) = .error (.undecodable ⟨2, 0xED, 0, .invalidContinuation⟩) ∧
    ∀ text, broken ≠ encode text := by
  intro bytes inputs path broken
  have hstandard : Loads bytes .lineFeed (loadNames inputs none) := @Loads.standard _ inputs rfl
  have hfile : Loads broken .universal (fileNames path (.ok broken)) := .file path
  have hfault : fileNames path (.ok broken) =
      .error (.undecodable ⟨2, 0xED, 0, .invalidContinuation⟩) := rfl
  refine ⟨hstandard, ?_, hfile, hfault, (loadNames_eq_ok_iff_encoded hfile).2.2.1.mp ⟨_, hfault⟩⟩
  exact ((loadNames_eq_ok_iff_encoded hstandard).1 _).mpr
    ⟨['\uFEFF', 'a', '\r', 'b'], rfl, by decide +kernel⟩

end CaseKeys.Source
