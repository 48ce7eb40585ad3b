import CaseKeys.Proofs.Json.Grammar
import Mathlib.Data.List.TakeWhile

/-! A reader of JSON texts. It accepts what the grammar derives and nothing else, so that a text has
at most one value. -/
namespace CaseKeys.Json
open Text Text.Pattern

/-- Reads something at the front of a text and leaves the rest. -/
abbrev Reader (α : Type) :=
  List Char → Option (α × List Char)

namespace Reader
variable {α β : Type} {read : Reader α} {input rest : List Char} {v : α}

/-- Reads a value made of what is read. -/
def map (f : α → β) (read : Reader α) : Reader β := fun input =>
  (read input).map fun (v, rest) => (f v, rest)

/-- Reads on behind what is read. -/
def bind (next : α → Reader β) (read : Reader α) : Reader β := fun input =>
  (read input).bind fun (v, rest) => next v rest

theorem map_eq_some_iff {f : α → β} {w : β} :
    read.map f input = some (w, rest) ↔ ∃ v, read input = some (v, rest) ∧ f v = w := by
  simp [map]

private theorem bind_eq_some_iff {next : α → Reader β} {w : β × List Char} :
    read.bind next input = some w ↔ ∃ v rest, read input = some (v, rest) ∧ next v rest = some w := by
  simp [bind, Option.bind_eq_some_iff]

private theorem map_of_eq_some (h : read input = some (v, rest)) (f : α → β) :
    read.map f input = some (f v, rest) :=
  map_eq_some_iff.mpr ⟨v, h, rfl⟩

private theorem bind_of_eq_some (h : read input = some (v, rest)) (next : α → Reader β) :
    read.bind next input = next v rest := by
  rw [bind, h]
  rfl

end Reader

def skip (text : List Char) : List Char :=
  text.dropWhile isSpace

def unit? : Reader Nat
  | a :: b :: c :: d :: rest =>
    match hexValue? a, hexValue? b, hexValue? c, hexValue? d with
    | some i, some j, some k, some l => some (((i * 16 + j) * 16 + k) * 16 + l, rest)
    | _, _, _, _ => none
  | _ => none

/-- The character that a high surrogate and the escape behind it make. -/
def afterHigh? (high : Nat) : Reader Char
  | '\\' :: 'u' :: rest =>
    unit?.bind (fun low rest =>
      if 0xDC00 ≤ low ∧ low < 0xE000 then some (pairChar high low, rest) else none) rest
  | _ => none

def char? : Reader Char
  | '\\' :: 'u' :: rest =>
    unit?.bind (fun n rest =>
      if n.isValidChar then some (Char.ofNat n, rest)
      else if 0xD800 ≤ n ∧ n < 0xDC00 then afterHigh? n rest
      else none) rest
  | '\\' :: c :: rest => (escaped? c).map (·, rest)
  | c :: rest => if 0x20 ≤ c.toNat ∧ c ≠ '"' ∧ c ≠ '\\' then some (c, rest) else none
  | [] => none

/-- The characters up to the closing quote. -/
def chars : Nat → Reader (List Char)
  | 0, _ => none
  | n + 1, input =>
    if input.head? = some '"' then some ([], input.tail)
    else char?.bind (fun c => (chars n).map (c :: ·)) input

def string : Reader String
  | '"' :: rest => (chars (rest.length + 1)).map String.ofList rest
  | _ => none

section
variable {α : Type} (item : Reader α)

/-- Items and commas up to the closing character. -/
def separated (close : Char) : Nat → Reader (List α)
  | 0, _ => none
  | n + 1, input =>
    item.bind (fun v rest =>
      match skip rest with
      | [] => none
      | c :: rest =>
        if c = close then some ([v], rest)
        else if c = ',' then (separated close n).map (v :: ·) (skip rest)
        else none) input

def listed (close : Char) : Reader (List α) := fun text =>
  if (skip text).head? = some close then some ([], (skip text).tail)
  else separated item close ((skip text).length + 1) (skip text)

def member : Reader (String × α) :=
  string.bind fun s rest =>
    match skip rest with
    | ':' :: rest => item.map (s, ·) (skip rest)
    | _ => none

end

def scalar? (written : List Char) : Option Value :=
  if written = ['n', 'u', 'l', 'l'] then some .null
  else if written = ['t', 'r', 'u', 'e'] then some (.boolean true)
  else if written = ['f', 'a', 'l', 's', 'e'] then some (.boolean false)
  else if numeral.rmatch written then some (.number written)
  else none

/-- Reads a value that is nested less than `n` deep. -/
def value : Nat → Reader Value
  | 0, _ => none
  | n + 1, input =>
    match input with
    | '"' :: _ => string.map .text input
    | '[' :: rest => (listed (value n) ']').map .array rest
    | '\x7b' :: rest => (listed (member (value n)) '\x7d').map .object rest
    | _ => (scalar? (input.takeWhile isScalar)).map (·, input.dropWhile isScalar)

def read (text : List Char) : Option Value :=
  (value (text.length + 1) (skip text)).bind fun (v, rest) => if skip rest = [] then some v else none

/-- Whatever stands behind it, a reader reads exactly the texts of a kind. -/
def Reads {α : Type} (read : Reader α) (Is : List Char → α → Prop) : Prop :=
  ∀ input v rest, read input = some (v, rest) ↔ ∃ front, input = front ++ rest ∧ Is front v

theorem Reads.append {α : Type} {read : Reader α} {Is : List Char → α → Prop} (h : Reads read Is)
    {front : List Char} {v : α} (hf : Is front v) (rest : List Char) :
    read (front ++ rest) = some (v, rest) :=
  (h _ _ _).mpr ⟨front, rfl, hf⟩

private theorem reads_unit : Reads unit? IsUnit := by
  intro input n rest
  constructor
  · intro h
    unfold unit? at h
    split at h
    · next a b c d _ =>
      split at h
      · next ha hb hc hd =>
        obtain ⟨rfl, rfl⟩ := Prod.mk.inj (Option.some.inj h)
        exact ⟨[a, b, c, d], rfl, .digits ha hb hc hd⟩
      · cases h
    · cases h
  · rintro ⟨_, rfl, ⟨ha, hb, hc, hd⟩⟩
    simp [unit?, ha, hb, hc, hd]

private theorem afterHigh?_eq_some_iff {high : Nat} {input rest : List Char} {c : Char} :
    afterHigh? high input = some (c, rest) ↔
      ∃ digits low, IsUnit digits low ∧ (0xDC00 ≤ low ∧ low < 0xE000) ∧
        input = '\\' :: 'u' :: (digits ++ rest) ∧ c = pairChar high low := by
  constructor
  · intro h
    unfold afterHigh? at h
    split at h
    · obtain ⟨low, r, hu, hr⟩ := Reader.bind_eq_some_iff.mp h
      obtain ⟨digits, rfl, hd⟩ := (reads_unit _ _ _).mp hu
      split at hr
      · next hl =>
        obtain ⟨rfl, rfl⟩ := Prod.mk.inj (Option.some.inj hr)
        exact ⟨digits, low, hd, hl, rfl, rfl⟩
      · cases hr
    · cases h
  · rintro ⟨digits, low, hd, hl, rfl, hc⟩
    rw [hc, afterHigh?, Reader.bind_of_eq_some (reads_unit.append hd rest), if_pos hl]

private theorem char?_plain {c : Char} (hc : 0x20 ≤ c.toNat ∧ c ≠ '"' ∧ c ≠ '\\')
    (rest : List Char) :
    char? (c :: rest) = some (c, rest) := by
  unfold char?
  split
  · next h => exact absurd (List.cons.inj h).1 hc.2.2
  · next h => exact absurd (List.cons.inj h).1 hc.2.2
  · next h =>
    obtain ⟨rfl, rfl⟩ := List.cons.inj h
    exact if_pos hc
  · next h => cases h

private theorem char?_escape {c d : Char} (h : escaped? c = some d) (rest : List Char) :
    char? ('\\' :: c :: rest) = some (d, rest) := by
  have hu : c ≠ 'u' := by
    rintro rfl
    cases h
  simp [char?, h]

private theorem reads_char : Reads char? IsChar := by
  intro input c rest
  constructor
  · intro h
    unfold char? at h
    split at h
    · obtain ⟨n, r, hu, hr⟩ := Reader.bind_eq_some_iff.mp h
      obtain ⟨digits, rfl, hd⟩ := (reads_unit _ _ _).mp hu
      split at hr
      · next hv =>
        obtain ⟨rfl, rfl⟩ := Prod.mk.inj (Option.some.inj hr)
        exact ⟨'\\' :: 'u' :: digits, rfl, .unit hd hv⟩
      split at hr
      · next hn =>
        obtain ⟨more, low, hm, hl, rfl, hc⟩ := afterHigh?_eq_some_iff.mp hr
        rw [hc]
        refine ⟨'\\' :: 'u' :: (digits ++ '\\' :: 'u' :: more), ?_, .pair hd hm hn.1 hn.2 hl.1 hl.2⟩
        simp
      · cases hr
    · next d r _ =>
      obtain ⟨d', hd, hr⟩ := Option.map_eq_some_iff.mp h
      obtain ⟨rfl, rfl⟩ := Prod.mk.inj hr
      exact ⟨['\\', d], rfl, .escape hd⟩
    · next d _ _ _ =>
      split at h
      · next hc =>
        obtain ⟨rfl, rfl⟩ := Prod.mk.inj (Option.some.inj h)
        exact ⟨[d], rfl, .plain hc.1 hc.2.1 hc.2.2⟩
      · cases h
    · cases h
  · rintro ⟨front, rfl, hc⟩
    cases hc with
    | plain hs hq hb => exact char?_plain ⟨hs, hq, hb⟩ rest
    | escape hd => exact char?_escape hd rest
    | @unit digits n hd hv =>
      rw [List.cons_append, List.cons_append, char?,
        Reader.bind_of_eq_some (reads_unit.append hd rest), if_pos hv]
    | @pair digits more high low hd hm hh hh' hl hl' =>
      have hi : '\\' :: 'u' :: (digits ++ '\\' :: 'u' :: more) ++ rest =
          '\\' :: 'u' :: (digits ++ '\\' :: 'u' :: (more ++ rest)) := by simp
      have hv : ¬ high.isValidChar := by
        rw [Nat.isValidChar]
        omega
      rw [hi, char?, Reader.bind_of_eq_some (reads_unit.append hd _), if_neg hv, if_pos ⟨hh, hh'⟩]
      exact afterHigh?_eq_some_iff.mpr ⟨more, low, hm, ⟨hl, hl'⟩, rfl, rfl⟩

private theorem chars_sound {n : Nat} {input rest cs : List Char}
    (h : chars n input = some (cs, rest)) :
    ∃ body, input = body ++ '"' :: rest ∧ IsChars body cs := by
  induction n generalizing input cs with
  | zero => cases h
  | succ n ih =>
    rw [chars] at h
    split at h
    · next hq =>
      obtain ⟨tail, rfl⟩ := List.head?_eq_some_iff.mp hq
      obtain ⟨rfl, rfl⟩ := Prod.mk.inj (Option.some.inj h)
      exact ⟨[], rfl, .nil⟩
    · obtain ⟨c, r, hc, h⟩ := Reader.bind_eq_some_iff.mp h
      obtain ⟨ds, hr, rfl⟩ := Reader.map_eq_some_iff.mp h
      obtain ⟨front, rfl, hf⟩ := (reads_char _ _ _).mp hc
      obtain ⟨body, rfl, hb⟩ := ih hr
      exact ⟨front ++ body, (List.append_assoc _ _ _).symm, .cons hf hb⟩

private theorem chars_complete {body rest cs : List Char} (h : IsChars body cs) {n : Nat}
    (hn : body.length < n) : chars n (body ++ '"' :: rest) = some (cs, rest) := by
  induction h generalizing n with
  | nil =>
    obtain ⟨n, rfl⟩ := Nat.exists_eq_add_one_of_ne_zero (Nat.ne_of_gt hn)
    rfl
  | @cons front body cs c hc _ ih =>
    obtain ⟨n, rfl⟩ := Nat.exists_eq_add_one_of_ne_zero (Nat.ne_zero_of_lt hn)
    obtain ⟨d, tail, rfl, hd⟩ := hc.exists_cons
    have hchar := reads_char.append hc (body ++ '"' :: rest)
    have hbody : body.length < n := by
      simp only [List.cons_append, List.length_cons, List.length_append] at hn
      omega
    rw [chars, List.append_assoc, if_neg (by simpa using hd), Reader.bind_of_eq_some hchar,
      Reader.map_of_eq_some (ih hbody)]

theorem reads_string : Reads string IsString := by
  intro input s rest
  constructor
  · intro h
    unfold string at h
    split at h
    · obtain ⟨cs, hc, rfl⟩ := Reader.map_eq_some_iff.mp h
      obtain ⟨body, rfl, hb⟩ := chars_sound hc
      exact ⟨'"' :: (body ++ ['"']), by simp, .quoted hb⟩
    · cases h
  · rintro ⟨_, rfl, @⟨body, cs, hb⟩⟩
    have hc : chars ((body ++ '"' :: rest).length + 1) (body ++ '"' :: rest) = some (cs, rest) :=
      chars_complete hb (by rw [List.length_append]; omega)
    have hi : '"' :: (body ++ ['"']) ++ rest = '"' :: (body ++ '"' :: rest) := by simp
    rw [hi, string, Reader.map_of_eq_some hc]

private theorem exists_eq_append_skip (input : List Char) :
    ∃ space, input = space ++ skip input ∧ IsSpace space :=
  ⟨input.takeWhile isSpace, List.takeWhile_append_dropWhile.symm, fun _ => List.mem_takeWhile_imp⟩

private theorem skip_space {space : List Char} (h : IsSpace space) : skip space = [] :=
  List.dropWhile_eq_nil_iff.mpr h

private theorem skip_append_cons {space : List Char} (h : IsSpace space) {c : Char}
    (hc : isSpace c = false) (rest : List Char) : skip (space ++ c :: rest) = c :: rest := by
  rw [skip, List.dropWhile_append_of_pos h]
  exact List.dropWhile_cons_of_neg (Bool.eq_false_iff.mp hc)

private theorem skip_append_of_starts {space front : List Char} (h : IsSpace space)
    (hf : Starts front) (rest : List Char) : skip (space ++ (front ++ rest)) = front ++ rest := by
  obtain ⟨c, tail, rfl, hc, -⟩ := hf
  exact skip_append_cons h hc (tail ++ rest)

/-- What stands behind a value: the end, or a character that does not belong to a number. -/
def Ends (rest : List Char) : Prop :=
  ∀ c ∈ rest.head?, isScalar c = false

private theorem ends_cons {c : Char} (h : isScalar c = false) (rest : List Char) :
    Ends (c :: rest) := by
  intro d hd
  obtain rfl : c = d := by simpa using hd
  exact h

private theorem ends_append {space rest : List Char} (h : IsSpace space) (hr : Ends rest) :
    Ends (space ++ rest) := by
  cases space with
  | nil => exact hr
  | cons c space => exact ends_cons (isScalar_of_isSpace (h c List.mem_cons_self)) (space ++ rest)

/-- The brackets that close an array or an object. -/
def Closes (c : Char) : Prop :=
  c = ']' ∨ c = '\x7d'

private theorem Closes.spec {c : Char} (h : Closes c) :
    c ≠ ',' ∧ isSpace c = false ∧ isScalar c = false := by
  rcases h with rfl | rfl <;> decide

/-- A reader that reads the texts of a kind that are shorter than `n`, where they end. -/
structure ReadsBelow {α : Type} (n : Nat) (read : Reader α) (Is : List Char → α → Prop) : Prop where
  sound : ∀ {input v rest}, read input = some (v, rest) → ∃ front, input = front ++ rest ∧ Is front v
  complete : ∀ {front v rest}, Is front v → front.length < n → Ends rest →
    read (front ++ rest) = some (v, rest)

section
variable {α : Type} {n : Nat} {item : Reader α} {Item : List Char → α → Prop} {close : Char}

private theorem separated_sound (hitem : ReadsBelow n item Item) {m : Nat} {input rest : List Char}
    {vs : List α} (h : separated item close m input = some (vs, rest)) :
    ∃ front, input = front ++ close :: rest ∧ Separated Item front vs := by
  induction m generalizing input vs with
  | zero => cases h
  | succ m ih =>
    rw [separated] at h
    obtain ⟨v, r, hv, hr⟩ := Reader.bind_eq_some_iff.mp h
    obtain ⟨front, rfl, hf⟩ := hitem.sound hv
    obtain ⟨after, ha, hafter⟩ := exists_eq_append_skip r
    split at hr
    · cases hr
    · next c r' hs =>
      rw [hs] at ha
      split at hr
      · next hc =>
        obtain ⟨rfl, rfl⟩ := Prod.mk.inj (Option.some.inj hr)
        exact ⟨front ++ after, by rw [ha, hc, List.append_assoc], .last hf hafter⟩
      split at hr
      · next hc =>
        obtain ⟨ws, hw, rfl⟩ := Reader.map_eq_some_iff.mp hr
        obtain ⟨before, hb, hbefore⟩ := exists_eq_append_skip r'
        obtain ⟨others, ho, hothers⟩ := ih hw
        refine ⟨front ++ (after ++ ',' :: (before ++ others)), ?_, .cons hf hafter hbefore hothers⟩
        rw [ha, hb, ho, hc]
        simp
      · cases hr

private theorem listed_sound (hitem : ReadsBelow n item Item) {input rest : List Char} {vs : List α}
    (h : listed item close input = some (vs, rest)) :
    ∃ front, input = front ++ close :: rest ∧ Listed Item front vs := by
  obtain ⟨space, hs, hspace⟩ := exists_eq_append_skip input
  rw [listed] at h
  split at h
  · next hc =>
    obtain ⟨tail, ht⟩ := List.head?_eq_some_iff.mp hc
    obtain ⟨rfl, rfl⟩ := Prod.mk.inj (Option.some.inj h)
    rw [ht] at hs ⊢
    exact ⟨space, hs, .none hspace⟩
  · obtain ⟨front, hf, hitems⟩ := separated_sound hitem h
    exact ⟨space ++ front, by rw [hs, hf, List.append_assoc], .some hspace hitems⟩

private theorem member_reads (hitem : ReadsBelow n item Item)
    (hstart : ∀ {front v}, Item front v → Starts front) :
    ReadsBelow n (member item) (IsMember Item) where
  sound := by
    intro input v rest h
    obtain ⟨s, r, hs, hm⟩ := Reader.bind_eq_some_iff.mp h
    obtain ⟨name, rfl, hname⟩ := (reads_string _ _ _).mp hs
    obtain ⟨before, hb, hbefore⟩ := exists_eq_append_skip r
    split at hm
    · next r' hr =>
      obtain ⟨w, hw, rfl⟩ := Reader.map_eq_some_iff.mp hm
      obtain ⟨after, ha, hafter⟩ := exists_eq_append_skip r'
      obtain ⟨front, hf, hv⟩ := hitem.sound hw
      refine ⟨name ++ (before ++ ':' :: (after ++ front)), ?_, .named hname hbefore hafter hv⟩
      rw [hb, hr, ha, hf]
      simp
    · cases hm
  complete := by
    rintro _ ⟨s, v⟩ rest (@⟨name, before, after, front, _, _, hname, hbefore, hafter, hv⟩) hn hrest
    simp only [List.length_append, List.length_cons] at hn
    have hi : name ++ (before ++ ':' :: (after ++ front)) ++ rest =
        name ++ (before ++ ':' :: (after ++ (front ++ rest))) := by simp
    have hcolon : skip (before ++ ':' :: (after ++ (front ++ rest))) =
        ':' :: (after ++ (front ++ rest)) := skip_append_cons hbefore (by decide) _
    have hfront := skip_append_of_starts hafter (hstart hv) rest
    have hw := hitem.complete hv (by omega) hrest
    rw [hi, member, Reader.bind_of_eq_some (reads_string.append hname _)]
    simp only [hcolon, hfront, Reader.map_of_eq_some hw]

variable (hitem : ReadsBelow n item Item) (hclose : Closes close)
  (hstart : ∀ {front v}, Item front v → Starts front)
include hitem hclose hstart

private theorem separated_complete {front rest : List Char} {vs : List α}
    (h : Separated Item front vs) (hn : front.length < n) {m : Nat} (hm : front.length < m) :
    separated item close m (front ++ close :: rest) = some (vs, rest) := by
  obtain ⟨hcomma, hspace, hscalar⟩ := hclose.spec
  induction h generalizing m with
  | @last front after v hf hafter =>
    obtain ⟨m, rfl⟩ := Nat.exists_eq_add_one_of_ne_zero (Nat.ne_zero_of_lt hm)
    rw [List.length_append] at hn
    have hv : item (front ++ (after ++ close :: rest)) = some (v, after ++ close :: rest) :=
      hitem.complete hf (by omega) (ends_append hafter (ends_cons hscalar rest))
    have hs := skip_append_cons hafter hspace rest
    rw [List.append_assoc, separated, Reader.bind_of_eq_some hv]
    simp only [hs, if_pos]
  | @cons front after before others v ws hf hafter hbefore hothers ih =>
    obtain ⟨m, rfl⟩ := Nat.exists_eq_add_one_of_ne_zero (Nat.ne_zero_of_lt hm)
    simp only [List.length_append, List.length_cons] at hn hm
    have hv : item (front ++ (after ++ ',' :: (before ++ (others ++ close :: rest)))) =
        some (v, after ++ ',' :: (before ++ (others ++ close :: rest))) :=
      hitem.complete hf (by omega) (ends_append hafter (ends_cons (by decide) _))
    have hs : skip (after ++ ',' :: (before ++ (others ++ close :: rest))) =
        ',' :: (before ++ (others ++ close :: rest)) := skip_append_cons hafter (by decide) _
    have hb := skip_append_of_starts hbefore (hothers.starts hstart) (close :: rest)
    have ho := ih (by omega) (m := m) (by omega)
    have hi : front ++ (after ++ ',' :: (before ++ others)) ++ close :: rest =
        front ++ (after ++ ',' :: (before ++ (others ++ close :: rest))) := by simp
    rw [hi, separated, Reader.bind_of_eq_some hv]
    simp only [hs, if_neg hcomma.symm, if_pos, hb, Reader.map_of_eq_some ho]

private theorem listed_complete {front rest : List Char} {vs : List α} (h : Listed Item front vs)
    (hn : front.length < n) :
    listed item close (front ++ close :: rest) = some (vs, rest) := by
  obtain ⟨-, hspace, -⟩ := hclose.spec
  cases h with
  | none hs =>
    rw [listed, skip_append_cons hs hspace]
    exact if_pos rfl
  | @some before items _ hb hitems =>
    have hne : (items ++ close :: rest).head? ≠ some close := by
      obtain ⟨c, tail, rfl, -, hsquare, hcurly⟩ := hitems.starts hstart
      rintro hc
      obtain rfl : c = close := by simpa using hc
      rcases hclose with rfl | rfl
      · exact hsquare rfl
      · exact hcurly rfl
    rw [List.length_append] at hn
    rw [List.append_assoc, listed, skip_append_of_starts hb (hitems.starts hstart), if_neg hne]
    have hm : items.length < (items ++ close :: rest).length + 1 := by
      rw [List.length_append]
      omega
    exact separated_complete hitem hclose hstart hitems (by omega) hm

end

private theorem denotes_of_scalar? {written : List Char} {v : Value}
    (h : scalar? written = some v) :
    Denotes written v := by
  unfold scalar? at h
  split at h
  · next hw =>
    obtain rfl := Option.some.inj h
    exact hw ▸ .null
  split at h
  · next hw =>
    obtain rfl := Option.some.inj h
    exact hw ▸ .yes
  split at h
  · next hw =>
    obtain rfl := Option.some.inj h
    exact hw ▸ .no
  split at h
  · next hw =>
    obtain rfl := Option.some.inj h
    exact .number ((RegularExpression.rmatch_iff_matches' numeral written).mp hw)
  · cases h

private theorem scalar?_numeral {written : List Char} (h : written ∈ numeral.matches') :
    scalar? written = some (.number written) := by
  have hr := (RegularExpression.rmatch_iff_matches' numeral written).mpr h
  have hne : ∀ name, numeral.rmatch name = false → written ≠ name := by
    rintro name hn rfl
    rw [hr] at hn
    cases hn
  rw [scalar?, if_neg (hne _ (by decide)), if_neg (hne _ (by decide)),
    if_neg (hne _ (by decide)), if_pos hr]

/-- A run of scalar characters that ends is read as a whole. -/
private theorem value_scalar {written rest : List Char} {v : Value} (hs : scalar? written = some v)
    (hne : written ≠ []) (hw : ∀ c ∈ written, isScalar c) (hr : Ends rest) (n : Nat) :
    value (n + 1) (written ++ rest) = some (v, rest) := by
  have hrest : rest.takeWhile isScalar = [] ∧ rest.dropWhile isScalar = rest := by
    cases rest with
    | nil => exact ⟨rfl, rfl⟩
    | cons c rest =>
      have hc := Bool.eq_false_iff.mp (hr c rfl)
      exact ⟨List.takeWhile_cons_of_neg hc, List.dropWhile_cons_of_neg hc⟩
  have htake : (written ++ rest).takeWhile isScalar = written := by
    rw [List.takeWhile_append_of_pos hw, hrest.1, List.append_nil]
  have hdrop : (written ++ rest).dropWhile isScalar = rest := by
    rw [List.dropWhile_append_of_pos hw, hrest.2]
  obtain ⟨c, tail, rfl⟩ := List.exists_cons_of_ne_nil hne
  have hc := hw c List.mem_cons_self
  unfold value
  split
  · next heq =>
    obtain ⟨rfl, -⟩ := List.cons.inj heq
    cases hc
  · next heq =>
    obtain ⟨rfl, -⟩ := List.cons.inj heq
    cases hc
  · next heq =>
    obtain ⟨rfl, -⟩ := List.cons.inj heq
    cases hc
  · rw [htake, hdrop, hs]
    rfl

theorem reads_value (n : Nat) : ReadsBelow n (value n) Denotes := by
  induction n with
  | zero => exact ⟨fun h => (by cases h), fun _ h => absurd h (Nat.not_lt_zero _)⟩
  | succ n ih =>
    have hmember := member_reads ih Denotes.starts
    constructor
    · intro input v rest h
      unfold value at h
      split at h
      · obtain ⟨s, hs, rfl⟩ := Reader.map_eq_some_iff.mp h
        obtain ⟨front, hf, hstring⟩ := (reads_string _ _ _).mp hs
        exact ⟨front, hf, .text hstring⟩
      · obtain ⟨vs, hv, rfl⟩ := Reader.map_eq_some_iff.mp h
        obtain ⟨front, rfl, hitems⟩ := listed_sound ih hv
        exact ⟨'[' :: (front ++ [']']), by simp, .array hitems⟩
      · obtain ⟨ms, hm, rfl⟩ := Reader.map_eq_some_iff.mp h
        obtain ⟨front, rfl, hitems⟩ := listed_sound hmember hm
        exact ⟨'\x7b' :: (front ++ ['\x7d']), by simp, .object hitems⟩
      · obtain ⟨w, hw, h⟩ := Option.map_eq_some_iff.mp h
        obtain ⟨rfl, rfl⟩ := Prod.mk.inj h
        exact ⟨input.takeWhile isScalar, List.takeWhile_append_dropWhile.symm,
          denotes_of_scalar? hw⟩
    · intro front v rest h hn hrest
      cases h with
      | null => exact value_scalar rfl (by decide) (List.all_eq_true.mp rfl) hrest n
      | yes => exact value_scalar rfl (by decide) (List.all_eq_true.mp rfl) hrest n
      | no => exact value_scalar rfl (by decide) (List.all_eq_true.mp rfl) hrest n
      | number hw =>
        exact value_scalar (scalar?_numeral hw) (ne_nil_of_mem_numeral hw)
          (isScalar_of_mem_numeral hw) hrest n
      | text hs =>
        have hr := reads_string.append hs rest
        cases hs
        rw [List.cons_append] at hr ⊢
        rw [value, Reader.map_of_eq_some hr]
      | @array body items hi =>
        simp only [List.length_append, List.length_cons] at hn
        have hr : listed (value n) ']' (body ++ ']' :: rest) = some (items, rest) :=
          listed_complete ih (.inl rfl) Denotes.starts hi (by omega)
        simp only [value, List.cons_append, List.append_assoc, List.nil_append,
          Reader.map_of_eq_some hr]
      | @object body members hm =>
        simp only [List.length_append, List.length_cons] at hn
        have hr : listed (member (value n)) '\x7d' (body ++ '\x7d' :: rest) = some (members, rest) :=
          listed_complete hmember (.inr rfl) IsMember.starts hm (by omega)
        simp only [value, List.cons_append, List.append_assoc, List.nil_append,
          Reader.map_of_eq_some hr]

/-- The reader accepts exactly the JSON texts, and gives the value that the text denotes. -/
theorem read_eq_some_iff {input : List Char} {v : Value} : read input = some v ↔ IsText input v := by
  constructor
  · intro h
    obtain ⟨⟨w, rest⟩, hw, hr⟩ := Option.bind_eq_some_iff.mp h
    obtain ⟨before, hi, hbefore⟩ := exists_eq_append_skip input
    obtain ⟨written, hf, hd⟩ := (reads_value _).sound hw
    obtain ⟨after, ha, hafter⟩ := exists_eq_append_skip rest
    simp only at hr
    split at hr
    · next hn =>
      obtain rfl := Option.some.inj hr
      rw [hi, hf, ha, hn, List.append_nil]
      exact .whole hbefore hd hafter
    · cases hr
  · rintro (@⟨before, written, after, _, hbefore, hd, hafter⟩)
    have hends : Ends after := by
      rw [← List.append_nil after]
      exact ends_append hafter (by simp [Ends])
    have hn : written.length < (before ++ (written ++ after)).length + 1 := by
      rw [List.length_append, List.length_append]
      omega
    have hv := (reads_value _).complete hd hn hends
    simp only [read, skip_append_of_starts hbefore hd.starts, hv, Option.bind_some,
      skip_space hafter, if_pos]

/-- A pair of surrogates is read as one character. -/
example : read "[true, \"\\ud83d\\ude00\" ]".toList =
    some (.array [.boolean true, .text (String.ofList ['😀'])]) := by
  rfl

end CaseKeys.Json
