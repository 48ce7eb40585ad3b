import CaseKeys.Proofs.Report.Lines

/-! The printed summary of a log: where no text that was recorded holds a line feed, it has the lines of
the summary and no others. -/
namespace CaseKeys.Log

/-- No text of a conflict holds a line feed. -/
def UnbrokenConflict (c : Conflict) : Prop :=
  '\n' ∉ c.key.toList ∧ '\n' ∉ c.first.toList ∧ '\n' ∉ c.second.toList

/-- No text that is listed holds a line feed. -/
structure Unbroken (l : Log) : Prop where
  conversions : ∀ c ∈ l.conversions, '\n' ∉ c.name.toList ∧ '\n' ∉ c.key.toList
  conflicts : ∀ c ∈ l.conflicts, UnbrokenConflict c
  warnings : ∀ w ∈ l.warnings, '\n' ∉ w.toList

private theorem lineFeed_notMem_append {a b : String} (ha : '\n' ∉ a.toList)
    (hb : '\n' ∉ b.toList) : '\n' ∉ (a ++ b).toList := by
  rw [String.toList_append, List.mem_append, not_or]
  exact ⟨ha, hb⟩

private theorem lineFeed_notMem_toString (n : Nat) : '\n' ∉ (toString n).toList := by
  intro h
  rw [Nat.toString_eq_repr, Nat.repr, String.toList_ofList] at h
  have hdigit : ('\n').isDigit := Nat.isDigit_of_mem_toDigits (by decide) (by decide) h
  exact absurd hdigit (by decide)

variable {l : Log}

private theorem unbroken_new (verbose : Bool) : Unbroken { verbose := verbose } :=
  ⟨nofun, nofun, nofun⟩

private theorem Unbroken.convert (h : Unbroken l) {c : Conversion}
    (hc : '\n' ∉ c.name.toList ∧ '\n' ∉ c.key.toList) : Unbroken (l.convert c) := by
  refine ⟨fun d hd => ?_, h.conflicts, h.warnings⟩
  rcases List.mem_append.mp hd with hd | hd
  · exact h.conversions d hd
  · rwa [List.mem_singleton.mp hd]

private theorem Unbroken.skip (h : Unbroken l) {s : Skip} (hname : '\n' ∉ s.name.toList)
    (hreason : '\n' ∉ s.reason.toList) : Unbroken (l.skip s) := by
  refine ⟨h.conversions, h.conflicts, fun w hw => ?_⟩
  rcases List.mem_append.mp hw with hw | hw
  · exact h.warnings w hw
  · rw [List.mem_singleton.mp hw]
    unfold skipWarning
    apply lineFeed_notMem_append _ hreason
    exact lineFeed_notMem_append (lineFeed_notMem_append (by decide) hname) (by decide)

private theorem lineFeed_notMem_conflictWarning {c : Conflict} (hc : UnbrokenConflict c) :
    '\n' ∉ (conflictWarning c).toList := by
  obtain ⟨hkey, hfirst, hsecond⟩ := hc
  unfold conflictWarning
  apply lineFeed_notMem_append _ (by decide)
  apply lineFeed_notMem_append _ hsecond
  apply lineFeed_notMem_append _ (by decide)
  apply lineFeed_notMem_append _ hfirst
  apply lineFeed_notMem_append _ (by decide)
  exact lineFeed_notMem_append (by decide) hkey

private theorem Unbroken.conflict (h : Unbroken l) {c : Conflict} (hc : UnbrokenConflict c) :
    Unbroken (l.conflict c) := by
  refine ⟨h.conversions, fun d hd => ?_, fun w hw => ?_⟩
  · rcases List.mem_append.mp hd with hd | hd
    · exact h.conflicts d hd
    · rwa [List.mem_singleton.mp hd]
  · rcases List.mem_append.mp hw with hw | hw
    · exact h.warnings w hw
    · rw [List.mem_singleton.mp hw]
      exact lineFeed_notMem_conflictWarning hc

private theorem Unbroken.logged (h : Unbroken l) (options : Options) {name key : String}
    {conflict : Option Conflict} (hname : '\n' ∉ name.toList) (hkey : '\n' ∉ key.toList)
    (hc : ∀ c ∈ conflict, UnbrokenConflict c) :
    Unbroken (Session.logged options l name key conflict) := by
  have hfirst : Unbroken (if key = "" then l.skip ⟨name, "empty localization key"⟩
      else l.convert ⟨name, key, options.format⟩) := by
    split
    · have hreason : '\n' ∉ "empty localization key".toList := by decide
      exact h.skip hname hreason
    · exact h.convert ⟨hname, hkey⟩
  cases conflict with
  | none => exact hfirst
  | some c => exact hfirst.conflict (hc c rfl)

/-- A session whose names hold no line feed records none. -/
theorem unbroken_generate {names : List String} (h : ∀ name ∈ names, '\n' ∉ name.toList)
    (options : Options) : Unbroken (Session.generate names options).log := by
  induction names using List.reverseRecOn with
  | nil => exact unbroken_new options.verbose
  | append_singleton names name ih =>
    obtain ⟨hnames, hname⟩ := List.forall_mem_append.mp h
    have hlast : '\n' ∉ name.toList := hname name (List.mem_singleton_self name)
    have hkey := Report.lineFeed_notMem_key hlast
    rw [Session.generate_concat, Session.log_add]
    refine (ih hnames).logged _ hlast (hkey _) fun c hc => ?_
    rw [Session.table_generate, (KeyTable.holds_ofNames names options.format).add_snd,
      KeyTable.format_ofNames] at hc
    have hpair : c ∈ (names.find? _).map _ :=
      KeyTable.collision?_map_pair options.format id names name ▸ hc
    obtain ⟨first, hfirst, rfl⟩ := Option.mem_map.mp hpair
    exact ⟨hkey _, hnames first (List.mem_of_find?_eq_some hfirst), hlast⟩

private theorem forall_mem_listing {title lines : List String}
    (ht : ∀ line ∈ title, '\n' ∉ line.toList) (hl : ∀ line ∈ lines, '\n' ∉ line.toList) :
    ∀ line ∈ listing title lines, '\n' ∉ line.toList := by
  rw [listing]
  split
  · nofun
  · exact List.forall_mem_append.mpr ⟨List.forall_mem_append.mpr ⟨ht, hl⟩, by decide⟩

private theorem lineFeed_notMem_conflict (h : Unbroken l) :
    ∀ line ∈ l.conflicts.map Conflict.format, '\n' ∉ line.toList := by
  intro line hm
  obtain ⟨c, hc, rfl⟩ := List.mem_map.mp hm
  obtain ⟨hkey, hfirst, hsecond⟩ := h.conflicts c hc
  unfold Conflict.format
  apply lineFeed_notMem_append _ hkey
  apply lineFeed_notMem_append _ (by decide)
  apply lineFeed_notMem_append _ hsecond
  exact lineFeed_notMem_append (lineFeed_notMem_append (by decide) hfirst) (by decide)

private theorem lineFeed_notMem_conversion (h : Unbroken l) :
    ∀ line ∈ l.conversions.map (fun c => "  " ++ c.name ++ " → " ++ c.key), '\n' ∉ line.toList := by
  intro line hm
  obtain ⟨c, hc, rfl⟩ := List.mem_map.mp hm
  obtain ⟨hname, hkey⟩ := h.conversions c hc
  apply lineFeed_notMem_append _ hkey
  exact lineFeed_notMem_append (lineFeed_notMem_append (by decide) hname) (by decide)

private theorem lineFeed_notMem_count (f : KeyFormat) (n : Nat) :
    '\n' ∉ ("  " ++ f.value ++ ": " ++ toString n).toList := by
  apply lineFeed_notMem_append _ (lineFeed_notMem_toString n)
  cases f <;> decide

theorem lineFeed_notMem_summaryLines (h : Unbroken l) :
    ∀ line ∈ l.summaryLines, '\n' ∉ line.toList := by
  have htotal : ∀ (title : String) (n : Nat), '\n' ∉ title.toList →
      '\n' ∉ (title ++ toString n).toList := fun title n ht =>
    lineFeed_notMem_append ht (lineFeed_notMem_toString n)
  simp only [summaryLines, List.forall_mem_append, List.forall_mem_cons]
  refine ⟨⟨⟨⟨⟨⟨⟨by decide, htotal _ _ (by decide), htotal _ _ (by decide), by decide, nofun⟩, ?_⟩, ?_⟩,
    htotal _ _ (by decide), htotal _ _ (by decide), nofun⟩, ?_⟩, htotal _ _ (by decide), nofun⟩, ?_⟩
  · refine forall_mem_listing (by decide) fun line hm => ?_
    obtain ⟨use, -, rfl⟩ := List.mem_map.mp hm
    exact lineFeed_notMem_count use.1 use.2
  · split
    · exact forall_mem_listing (by decide) (lineFeed_notMem_conversion h)
    · nofun
  · exact forall_mem_listing nofun (lineFeed_notMem_conflict h)
  · split
    · nofun
    · refine List.forall_mem_cons.mpr ⟨by decide, fun line hm => ?_⟩
      obtain ⟨w, hw, rfl⟩ := List.mem_map.mp hm
      exact lineFeed_notMem_append (by decide) (h.warnings w hw)

/-- Cut at its line feeds, the printed summary gives back its lines. -/
theorem splitOn_printed (h : Unbroken l) :
    (l.printed.toList.splitOn '\n').map String.ofList = l.summaryLines := by
  have hlines : l.summaryLines.map String.toList ≠ [] := by simp [summaryLines]
  have hsplit : l.printed.toList.splitOn '\n' = l.summaryLines.map String.toList := by
    rw [printed, String.toList_intercalate]
    refine List.splitOn_intercalate '\n' (fun line hl => ?_) hlines
    obtain ⟨text, ht, rfl⟩ := List.mem_map.mp hl
    exact lineFeed_notMem_summaryLines h text ht
  rw [hsplit, List.map_map]
  exact (List.map_congr_left fun _ _ => String.ofList_toList).trans (List.map_id _)

/-- So it is for every session whose names come from lines. -/
theorem splitOn_printed_generate {names : List String} (h : ∀ name ∈ names, '\n' ∉ name.toList)
    (options : Options) :
    ((Session.generate names options).log.printed.toList.splitOn '\n').map String.ofList
      = (Session.generate names options).log.summaryLines :=
  splitOn_printed (unbroken_generate h options)

end CaseKeys.Log
