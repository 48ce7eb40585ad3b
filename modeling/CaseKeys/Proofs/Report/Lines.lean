import CaseKeys.Proofs.Key.Growth
import CaseKeys.Proofs.Session.Generation
import CaseKeys.Proofs.Source.Loading

/-! The plain report tells lists of names apart. It has a line for each name, and although a name may
hold the signs that stand between a name and its key, no two names have the same line. -/
namespace CaseKeys.Report
open KeyTable

/-- The lines of a text with line feeds between them. The empty text has none. -/
def linesOf (text : String) : List String :=
  if text = "" then [] else (text.toList.splitOn '\n').map String.ofList

private theorem linesOf_intercalate {lines : List String}
    (h : ∀ l ∈ lines, l ≠ "" ∧ '\n' ∉ l.toList) :
    linesOf ("\n".intercalate lines) = lines := by
  by_cases hn : lines = []
  · rw [hn]
    rfl
  · have hsplit : ("\n".intercalate lines).toList.splitOn '\n' = lines.map String.toList := by
      rw [String.toList_intercalate]
      refine List.splitOn_intercalate '\n' (fun l hl => ?_) (mt List.map_eq_nil_iff.mp hn)
      obtain ⟨line, hm, rfl⟩ := List.mem_map.mp hl
      exact (h line hm).2
    have htext : "\n".intercalate lines ≠ "" := by
      intro he
      rw [he] at hsplit
      -- the one line that the empty text could be is empty
      have hone : lines.map String.toList = [[]] := hsplit.symm
      obtain ⟨line, hl, hempty⟩ := List.map_eq_singleton_iff.mp hone
      exact (h line (by simp [hl])).1 (String.toList_eq_nil_iff.mp hempty)
    rw [linesOf, if_neg htext, hsplit, List.map_map]
    have hback : lines.map (String.ofList ∘ String.toList) = lines.map id :=
      List.map_congr_left fun _ _ => String.ofList_toList
    rw [hback, List.map_id]

/-- No line feed comes into a key. -/
theorem lineFeed_notMem_key {name : String} (h : '\n' ∉ name.toList) (f : KeyFormat) :
    '\n' ∉ (Key.ofName name f).toList := by
  intro hm
  rw [Key.toList_ofName] at hm
  rcases Key.mem_joinChars hm with ⟨-, he⟩ | ⟨word, hw, c, hc, he⟩
  · exact absurd he (by decide)
  · have hcased : '\n' = c := he.elim id fun hu =>
      Text.eq_of_mem_upperChar hu ⟨by decide, by decide⟩ (by decide)
    obtain ⟨segment, hs, rfl⟩ := Words.mem_ofName hw
    rw [← hcased] at hc
    have hsegment := Text.mem_of_mem_lower (by decide) (by decide) hc
    exact h ((Words.mem_segments hs).2.2 '\n' hsegment)

private theorem toList_line (f : KeyFormat) (name : String) : (line (pair f name)).toList =
    name.toList ++ (" = ".toList ++ (Key.ofName name f).toList) := by
  rw [line, String.toList_append, String.toList_append, List.append_assoc]
  rfl

/-- A line is as long as its name, its key and the three characters between them, so that a longer name
in the same line would have a shorter key. -/
private theorem eq_of_prefix_of_line_eq {f : KeyFormat} {name other : String} {more : List Char}
    (hother : other.toList = name.toList ++ more) (h : line (pair f name) = line (pair f other)) :
    name = other := by
  have hlength := congrArg (fun l => l.toList.length) h
  have hbehind : other = name ++ String.ofList more := by
    rw [← String.toList_inj, String.toList_append, String.toList_ofList, hother]
  have hgrow := Key.length_ofName_le_append name (String.ofList more) f
  rw [← hbehind] at hgrow
  simp only [toList_line, hother, List.length_append] at hlength
  have hmore : more = [] := List.eq_nil_of_length_eq_zero (by omega)
  rw [← String.toList_inj, hother, hmore, List.append_nil]

theorem line_pair_injective (f : KeyFormat) : Function.Injective fun name => line (pair f name) := by
  intro name other h
  have hchars := congrArg String.toList h
  simp only [toList_line] at hchars
  rcases List.append_eq_append_iff.mp hchars with ⟨more, hm, -⟩ | ⟨more, hm, -⟩
  · exact eq_of_prefix_of_line_eq hm h
  · exact (eq_of_prefix_of_line_eq hm h.symm).symm

theorem linesOf_text {names : List String} (h : ∀ name ∈ names, '\n' ∉ name.toList)
    (options : Options) :
    linesOf (text (Session.generate names options)) =
      names.map fun name => line (pair options.format name) := by
  rw [text, Session.table_generate, (holds_ofNames names options.format).entries, List.map_map]
  apply linesOf_intercalate
  intro l hl
  obtain ⟨name, hn, rfl⟩ := List.mem_map.mp hl
  have hkey := lineFeed_notMem_key (h name hn) options.format
  constructor
  · intro he
    have hempty := congrArg String.toList he
    simp [toList_line] at hempty
  · simp [toList_line, h name hn, hkey]

/-- The plain report of names without line feeds, as they are loaded from every input, has one line for
each of them in their order, and none when there are no names. Different lists of such names have
different reports under one format, whatever the other options are. -/
theorem text_tells_names_apart :
    (∀ names options, (∀ name ∈ names, '\n' ∉ name.toList) →
      linesOf (text (Session.generate names options)) =
        names.map fun name => name ++ " = " ++ Key.ofName name options.format) ∧
    (∀ names others options options', (∀ name ∈ names, '\n' ∉ name.toList) →
      (∀ name ∈ others, '\n' ∉ name.toList) → options.format = options'.format → names ≠ others →
        text (Session.generate names options) ≠ text (Session.generate others options')) ∧
    ∀ inputs input names, Source.loadNames inputs input = .ok names →
      ∀ name ∈ names, '\n' ∉ name.toList := by
  refine ⟨fun names options h => linesOf_text h options,
    fun names others options options' h h' hf hne htext => hne ?_,
    fun inputs input names hl name hn hm => ?_⟩
  · have hlines := congrArg linesOf htext
    rw [linesOf_text h, linesOf_text h', hf] at hlines
    exact (line_pair_injective options'.format).list_map hlines
  · obtain ⟨newlines, content, rfl⟩ := Source.exists_of_loadNames hl
    exact ((Source.isName_of_mem hn).unbroken '\n' hm).1 rfl

/-- A name that is the whole line of another, and one whose last sigma is not final in a longer name. -/
theorem text_tells_names_apart_of_separators :
    let names := ["a", "ΑΣ"]
    let others := ["a = A", "ΑΣΑ"]
    let inputs : Source.Inputs := ⟨fun _ => .error .missing, [0x61, 0x0A, 0x62], .lineFeed⟩
    (∀ name ∈ names, '\n' ∉ name.toList) ∧ (∀ name ∈ others, '\n' ∉ name.toList) ∧
    names ≠ others ∧
    text (Session.generate names {}) ≠ text (Session.generate others { verbose := true }) ∧
    (∀ name ∈ ["a = A"], '\n' ∉ name.toList) ∧
    linesOf (text (Session.generate ["a = A"] {})) = ["a = A = A = A"] ∧
    Source.loadNames inputs none = .ok ["a", "b"] ∧
    ∀ name ∈ ["a", "b"], '\n' ∉ name.toList := by
  intro names others inputs
  obtain ⟨hlines, happart, hloaded⟩ := text_tells_names_apart
  have hnames : ∀ name ∈ names, '\n' ∉ name.toList := by decide
  have hothers : ∀ name ∈ others, '\n' ∉ name.toList := by decide
  have hne : names ≠ others := by decide
  have hone : ∀ name ∈ ["a = A"], '\n' ∉ name.toList := by decide
  have hkey : Key.ofName "a = A" ({} : Options).format = "A = A" := by decide
  have hload : Source.loadNames inputs none = .ok ["a", "b"] := by decide +kernel
  refine ⟨hnames, hothers, hne, happart names others {} { verbose := true } hnames hothers rfl hne,
    hone, ?_, hload, hloaded inputs none _ hload⟩
  rw [hlines ["a = A"] {} hone, List.map_singleton, hkey]
  rfl

end CaseKeys.Report
