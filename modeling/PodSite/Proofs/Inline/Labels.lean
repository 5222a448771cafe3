import PodSite.Inline.Link
import Mathlib.Data.List.Basic

/-!
Where the label of a link ends. It should be cut off at the first bar outside of all codes. The code
counts angle brackets instead of codes, and the two differ where a bracket belongs to no code.
-/
namespace PodSite.Link

open Inline (Closer OpenCode Reader)

section Scan
variable {σ : Type} (step : σ → Char → Text → σ) (free : σ → Bool)

def cutAt? (s : σ) : Text → Option (Text × Text)
  | [] => none
  | c :: rest =>
    if c = '|' ∧ free s = true then some ([], rest)
    else (cutAt? (step s c rest) rest).map fun (front, back) => (c :: front, back)

def stateAfter (s : σ) : (front back : Text) → σ
  | [], _ => s
  | c :: front, back => stateAfter (step s c (front ++ back)) front back

def FreeBar (s : σ) (t front back : Text) : Prop :=
  t = front ++ '|' :: back ∧ free (stateAfter step s front ('|' :: back)) = true

variable {step free} {s : σ} {t front back : Text}

theorem freeBar_cons {c : Char} {rest : Text} :
    FreeBar step free s (c :: rest) front back ↔
      (front = [] ∧ rest = back ∧ c = '|' ∧ free s = true) ∨
        ∃ front', front = c :: front' ∧ FreeBar step free (step s c rest) rest front' back := by
  cases front with
  | nil => simp [FreeBar, stateAfter, and_assoc, and_left_comm]
  | cons d front' =>
    constructor
    · rintro ⟨split, isFree⟩
      obtain ⟨rfl, rfl⟩ := List.cons.inj split
      exact .inr ⟨front', rfl, rfl, isFree⟩
    · rintro (⟨empty, _⟩ | ⟨front', same, split, isFree⟩)
      · cases empty
      · obtain ⟨rfl, rfl⟩ := List.cons.inj same
        subst split
        exact ⟨rfl, isFree⟩

theorem FreeBar.eq_of_length {τ : Type} {step' : τ → Char → Text → τ} {free' : τ → Bool} {s' : τ}
    {front' back' : Text} (isBar : FreeBar step free s t front back)
    (isBar' : FreeBar step' free' s' t front' back') (size : front.length = front'.length) :
    front = front' ∧ back = back' := by
  obtain ⟨fronts, tails⟩ := List.append_inj (isBar.1.symm.trans isBar'.1) size
  exact ⟨fronts, (List.cons.inj tails).2⟩

theorem cutAt?_eq_none_iff :
    cutAt? step free s t = none ↔ ∀ front back, ¬FreeBar step free s t front back := by
  induction t generalizing s with
  | nil => simp [cutAt?, FreeBar]
  | cons c rest ih =>
    rw [cutAt?]
    split
    · rename_i here
      constructor
      · intro absurd
        cases absurd
      · intro barless
        exact absurd (freeBar_cons.mpr (.inl ⟨rfl, rfl, here⟩)) (barless [] rest)
    · rename_i later
      rw [Option.map_eq_none_iff, ih]
      constructor
      · intro barless front back isBar
        obtain ⟨-, -, here⟩ | ⟨front', -, isBar'⟩ := freeBar_cons.mp isBar
        · exact later here
        · exact barless front' back isBar'
      · intro barless front back isBar
        exact barless (c :: front) back (freeBar_cons.mpr (.inr ⟨front, rfl, isBar⟩))

theorem cutAt?_first (cut : cutAt? step free s t = some (front, back)) :
    FreeBar step free s t front back ∧
      ∀ front' back', FreeBar step free s t front' back' → front.length ≤ front'.length := by
  induction t generalizing s front with
  | nil => cases cut
  | cons c rest ih =>
    rw [cutAt?] at cut
    split at cut
    · rename_i here
      cases cut
      exact ⟨freeBar_cons.mpr (.inl ⟨rfl, rfl, here⟩), fun _ _ _ => Nat.zero_le _⟩
    · rename_i later
      simp only [Option.map_eq_some_iff, Prod.exists, Prod.mk.injEq] at cut
      obtain ⟨front, _, cut, rfl, rfl⟩ := cut
      obtain ⟨isBar, first⟩ := ih cut
      refine ⟨freeBar_cons.mpr (.inr ⟨front, rfl, isBar⟩), ?_⟩
      intro front' back' isBar'
      obtain ⟨-, -, here⟩ | ⟨front', rfl, inner⟩ := freeBar_cons.mp isBar'
      · exact absurd here later
      · have shorter := first front' back' inner
        rw [List.length_cons, List.length_cons]
        omega

theorem cutAt?_eq_some_iff :
    cutAt? step free s t = some (front, back) ↔
      FreeBar step free s t front back ∧
        ∀ front' back', FreeBar step free s t front' back' → front.length ≤ front'.length := by
  constructor
  · exact cutAt?_first
  · rintro ⟨isBar, first⟩
    cases cut : cutAt? step free s t with
    | none => exact absurd isBar (cutAt?_eq_none_iff.mp cut front back)
    | some parts =>
      obtain ⟨front', back'⟩ := parts
      obtain ⟨isBar', first'⟩ := cutAt?_first cut
      have size := Nat.le_antisymm (first' front back isBar) (first front' back' isBar')
      obtain ⟨rfl, rfl⟩ := isBar'.eq_of_length isBar size
      rfl

/-- Two scans cut alike just if they are free alike at each bar up to the first one where the second
scan is free. -/
theorem cutAt?_eq_iff {τ : Type} {step' : τ → Char → Text → τ} {free' : τ → Bool} {s' : τ} :
    cutAt? step free s t = cutAt? step' free' s' t ↔
      ∀ front back,
        (∀ front' back', FreeBar step' free' s' t front' back' → front.length ≤ front'.length) →
          (FreeBar step free s t front back ↔ FreeBar step' free' s' t front back) := by
  constructor
  · intro same front back earliest
    constructor
    · intro isBar
      cases cut : cutAt? step free s t with
      | none => exact absurd isBar (cutAt?_eq_none_iff.mp cut front back)
      | some parts =>
        obtain ⟨front', back'⟩ := parts
        have isBar' := (cutAt?_first (same ▸ cut)).1
        have size := Nat.le_antisymm ((cutAt?_first cut).2 front back isBar)
          (earliest front' back' isBar')
        obtain ⟨rfl, rfl⟩ := isBar'.eq_of_length isBar size
        exact isBar'
    · intro isBar
      have cut := cutAt?_eq_some_iff.mpr ⟨isBar, earliest⟩
      rw [← same] at cut
      exact (cutAt?_first cut).1
  · intro alike
    cases cut : cutAt? step' free' s' t with
    | none =>
      rw [cutAt?_eq_none_iff] at cut ⊢
      intro front back isBar
      exact cut front back ((alike front back fun _ _ isBar' => absurd isBar' (cut _ _)).mp isBar)
    | some parts =>
      obtain ⟨front, back⟩ := parts
      obtain ⟨isBar, first⟩ := cutAt?_first cut
      rw [cutAt?_eq_some_iff]
      refine ⟨(alike front back first).mpr isBar, ?_⟩
      intro front' back' isBar'
      by_contra shorter
      -- a bar in front of the first one would have to be one of the second scan
      have earliest : ∀ other back, FreeBar step' free' s' t other back →
          front'.length ≤ other.length := by
        intro other back isBar
        have := first other back isBar
        omega
      exact shorter (first front' back' ((alike front' back' earliest).mp isBar'))

end Scan

def nest (depth : Nat) (c : Char) : Nat :=
  if c = '<' then depth + 1 else if c = '>' then depth - 1 else depth

theorem splitLabel?_eq_cutAt? (depth : Nat) (t : Text) :
    splitLabel? depth t = cutAt? (fun d c _ => nest d c) (· == 0) depth t := by
  induction t generalizing depth with
  | nil => rfl
  | cons c rest ih =>
    rw [splitLabel?, cutAt?]
    simp only [beq_iff_eq]
    rw [← ih]
    rfl

theorem stateAfter_nest (depth : Nat) (front back : Text) :
    stateAfter (fun d c _ => nest d c) depth front back = front.foldl nest depth := by
  induction front generalizing depth with
  | nil => rfl
  | cons c front ih => exact ih (nest depth c)

end PodSite.Link

namespace PodSite.Inline

def Closer.size : Closer → Nat
  | .angle => 1
  | .angles n => n

theorem take_takeWhile (p : Char → Bool) (t : Text) :
    t.take (t.takeWhile p).length = t.takeWhile p :=
  (List.prefix_iff_eq_take.mp (List.takeWhile_prefix p)).symm

theorem spacedClose?_eq_some {n width : Nat} {t : Text} (found : spacedClose? n t = some width) :
    width = (t.takeWhile Text.isBlank).length + n ∧
      t.take width = t.takeWhile Text.isBlank ++ List.replicate n '>' := by
  unfold spacedClose? at found
  simp only at found
  split at found
  · rename_i closing
    cases found
    exact ⟨rfl, by rw [List.take_add, closing, take_takeWhile]⟩
  · cases found

theorem Closer.width?_eq_some {closer : Closer} {t : Text} {width : Nat}
    (found : closer.width? t = some width) :
    0 < width ∧ ∃ blanks, (∀ c ∈ blanks, Text.isBlank c = true) ∧
      t.take width = blanks ++ List.replicate closer.size '>' := by
  unfold Closer.width? at found
  split at found
  · cases found
    exact ⟨Nat.one_pos, [], by simp, rfl⟩
  · rename_i n c rest
    split at found
    · rename_i blank
      obtain ⟨size, taken⟩ := spacedClose?_eq_some found
      refine ⟨?_, _, List.all_eq_true.mp List.all_takeWhile, taken⟩
      rw [size, List.takeWhile_cons_of_pos blank, List.length_cons]
      omega
    · cases found
  · cases found

/-- What starts a code is a letter, opening brackets and white space. -/
theorem opening?_eq_some {t : Text} {closer : Closer} {width : Nat}
    (found : opening? t = some (closer, width)) :
    0 < width ∧ 0 < closer.size ∧ ∃ letter blanks, isCodeLetter letter = true ∧
      (∀ c ∈ blanks, Text.isBlank c = true) ∧
      t.take width = letter :: (List.replicate closer.size '<' ++ blanks) := by
  unfold opening? at found
  split at found
  · rename_i c rest
    split at found
    · rename_i letter
      simp only [Nat.add_sub_cancel] at found
      split at found
      · simp only [Option.some.injEq, Prod.mk.injEq] at found
        obtain ⟨rfl, rfl⟩ := found
        have angles : rest.takeWhile (· == '<') =
            List.replicate (rest.takeWhile (· == '<')).length '<' := by
          rw [List.eq_replicate_iff]
          refine ⟨rfl, fun c member => ?_⟩
          simpa using List.all_eq_true.mp List.all_takeWhile c member
        have taken : ∀ leading, (c :: '<' :: rest).take
            (1 + ((rest.takeWhile (· == '<')).length + 1) + leading) =
              c :: (List.replicate ((rest.takeWhile (· == '<')).length + 1) '<' ++
                (rest.drop (rest.takeWhile (· == '<')).length).take leading) := by
          intro leading
          rw [show 1 + ((rest.takeWhile (· == '<')).length + 1) + leading =
            (rest.takeWhile (· == '<')).length + leading + 2 by omega, List.take_succ_cons,
            List.take_succ_cons, List.take_add, take_takeWhile, List.replicate_succ,
            List.cons_append, ← angles]
        refine ⟨by omega, Nat.succ_pos _, c, _, letter, ?_, taken _⟩
        split
        · simp
        · rw [take_takeWhile]
          exact List.all_eq_true.mp List.all_takeWhile
      · cases found
        exact ⟨by decide, by decide, c, [], letter, by simp, rfl⟩
    · cases found
  · cases found

def openAngles : List OpenCode → Nat
  | [] => 0
  | code :: outer => code.closer.size + openAngles outer

/-- With `depth` brackets open in front of `t`, there are as many as the open codes have once the
part of `t` is read that belongs to the last opening or closing. -/
structure Counted (codes : List OpenCode) (skip : Nat) (t : Text) (depth : Nat) : Prop where
  positive : ∀ code ∈ codes, 0 < code.closer.size
  balance : depth + (t.take skip).count '<' = openAngles codes + (t.take skip).count '>'
  oneSided : (t.take skip).count '<' = 0 ∨ (t.take skip).count '>' = 0
  barless : '|' ∉ t.take skip

namespace Counted
variable {codes : List OpenCode} {skip depth : Nat} {c : Char} {rest : Text}

theorem pass (counted : Counted codes (skip + 1) (c :: rest) depth) :
    Counted codes skip rest (Link.nest depth c) := by
  obtain ⟨positive, balance, oneSided, barless⟩ := counted
  rw [List.take_succ_cons] at balance oneSided barless
  rw [List.count_cons, List.count_cons] at balance oneSided
  refine ⟨positive, ?_, ?_, fun member => barless (List.mem_cons_of_mem c member)⟩
  · unfold Link.nest
    by_cases opens : c = '<'
    · simp only [opens, beq_self_eq_true, ↓reduceIte, Char.reduceBEq, Bool.false_eq_true]
        at balance ⊢
      omega
    · by_cases closes : c = '>'
      · -- the depth is not zero here, since brackets of this closing are still to come
        simp only [closes, Char.reduceBEq, Char.reduceEq, beq_self_eq_true, ↓reduceIte,
          Bool.false_eq_true] at balance oneSided ⊢
        omega
      · simp only [opens, closes, beq_iff_eq, ↓reduceIte] at balance ⊢
        omega
  · omega

theorem depth_eq {t : Text} (counted : Counted codes 0 t depth) : depth = openAngles codes :=
  counted.balance

theorem eq_zero_iff {t : Text} (counted : Counted codes 0 t depth) :
    depth = 0 ↔ codes.isEmpty = true := by
  rw [counted.depth_eq]
  cases codes with
  | nil => simp [openAngles]
  | cons code outer =>
    have more := counted.positive code List.mem_cons_self
    rw [openAngles, List.isEmpty_cons]
    simp only [Bool.false_eq_true, iff_false]
    omega

theorem not_mem_blanks {blanks : Text} (all : ∀ c ∈ blanks, Text.isBlank c = true)
    (solid : Text.isBlank c = false) : c ∉ blanks := by
  intro member
  rw [all c member] at solid
  cases solid

theorem close {code : OpenCode} {outer : List OpenCode} {t : Text} {width : Nat}
    (counted : Counted (code :: outer) 0 t depth) (found : code.closer.width? t = some width) :
    Counted outer width t depth := by
  obtain ⟨-, blanks, blank, taken⟩ := Closer.width?_eq_some found
  have opening : (t.take width).count '<' = 0 := by
    rw [taken, List.count_eq_zero, List.mem_append, List.mem_replicate]
    simp [not_mem_blanks blank (c := '<') (by decide)]
  have closing : (t.take width).count '>' = code.closer.size := by
    rw [taken, List.count_append, List.count_replicate_self,
      List.count_eq_zero.mpr (not_mem_blanks blank (by decide)), Nat.zero_add]
  have depth_eq := counted.depth_eq
  rw [openAngles] at depth_eq
  refine ⟨fun other member => counted.positive other (List.mem_cons_of_mem code member), ?_,
    .inl opening, ?_⟩
  · omega
  · rw [taken, List.mem_append, List.mem_replicate]
    simp [not_mem_blanks blank (c := '|') (by decide)]

theorem enter {code : OpenCode} {t : Text} {width : Nat} (counted : Counted codes 0 t depth)
    (found : opening? t = some (code.closer, width)) : Counted (code :: codes) width t depth := by
  obtain ⟨-, positive, letter, blanks, isLetter, blank, taken⟩ := opening?_eq_some found
  have other : ∀ c, isCodeLetter c = false → c ≠ letter := by
    rintro c no rfl
    rw [no] at isLetter
    cases isLetter
  have opening : (t.take width).count '<' = code.closer.size := by
    rw [taken, List.count_cons_of_ne (other '<' (by decide)).symm, List.count_append,
      List.count_replicate_self, List.count_eq_zero.mpr (not_mem_blanks blank (by decide)),
      Nat.add_zero]
  have closing : (t.take width).count '>' = 0 := by
    rw [taken, List.count_eq_zero, List.mem_cons, List.mem_append, List.mem_replicate]
    simp [other '>' (by decide), not_mem_blanks blank (c := '>') (by decide)]
  have depth_eq := counted.depth_eq
  refine ⟨List.forall_mem_cons.mpr ⟨positive, counted.positive⟩, ?_, .inr closing, ?_⟩
  · rw [openAngles]
    omega
  · rw [taken, List.mem_cons, List.mem_append, List.mem_replicate]
    simp [other '|' (by decide), not_mem_blanks blank (c := '|') (by decide)]

theorem text (counted : Counted codes 0 (c :: rest) depth) (plain : c ≠ '<')
    (outside : c = '>' → codes = []) : Counted codes 0 rest (Link.nest depth c) := by
  have depth_eq := counted.depth_eq
  refine ⟨counted.positive, ?_, .inl rfl, List.not_mem_nil⟩
  rw [List.take_zero, List.count_nil, List.count_nil, Nat.add_zero, Nat.add_zero, Link.nest,
    if_neg plain]
  split
  · rename_i closes
    rw [outside closes] at depth_eq ⊢
    rw [depth_eq]
    rfl
  · exact depth_eq

end Counted

namespace Reader

/-- The state behind a part of a text is the one in which the reader goes on. -/
theorem run_stateAfter (r : Reader) (front back : Text) :
    r.run (front ++ back) = (Link.stateAfter step r front back).run back := by
  induction front generalizing r with
  | nil => rfl
  | cons c front ih => exact ih (r.step c (front ++ back))

/-- Tells whether the next character is an angle bracket that belongs to no code. A closing one
outside of all codes does not matter. -/
def strays (r : Reader) (c : Char) (rest : Text) : Bool :=
  (r.step c rest).text == c :: r.text && (c == '<' || (c == '>' && !r.codes.isEmpty))

def tidy (r : Reader) : Text → Bool
  | [] => true
  | c :: rest => !r.strays c rest && (r.step c rest).tidy rest

variable {r : Reader} {c : Char} {rest : Text} {depth : Nat}

theorem plain_of_not_strays (tidy : r.strays c rest = false)
    (text : (r.step c rest).text = c :: r.text) : c ≠ '<' ∧ (c = '>' → r.codes = []) := by
  simp only [strays, text, beq_self_eq_true, Bool.true_and, Bool.or_eq_false_iff,
    beq_eq_false_iff_ne, Bool.and_eq_false_imp, beq_iff_eq, Bool.not_eq_false',
    List.isEmpty_iff] at tidy
  exact tidy

theorem enter_counted (counted : Counted r.codes 0 (c :: rest) depth) (rested : r.skip = 0)
    (plain : (r.enter c rest).text = c :: r.text → c ≠ '<' ∧ (c = '>' → r.codes = [])) :
    Counted (r.enter c rest).codes (r.enter c rest).skip rest (Link.nest depth c) := by
  unfold enter at plain ⊢
  split
  · rename_i closer width found
    obtain ⟨k, rfl⟩ : ∃ k, width = k + 1 :=
      Nat.exists_eq_add_one.mpr (opening?_eq_some found).1
    exact Counted.pass (counted.enter found)
  · rename_i none
    simp only [none] at plain
    obtain ⟨other, outside⟩ := plain trivial
    simp only [rested]
    exact counted.text other outside

theorem step_counted (counted : Counted r.codes r.skip (c :: rest) depth)
    (tidy : r.strays c rest = false) :
    Counted (r.step c rest).codes (r.step c rest).skip rest (Link.nest depth c) := by
  have plain := plain_of_not_strays tidy
  unfold step at plain ⊢
  cases skip : r.skip with
  | succ k =>
    rw [skip] at counted
    simp only [Nat.zero_lt_succ, ↓reduceIte, Nat.add_sub_cancel]
    exact counted.pass
  | zero =>
    rw [skip] at counted
    simp only [skip, Nat.lt_irrefl, ↓reduceIte] at plain ⊢
    cases codes : r.codes with
    | nil =>
      simp only [codes] at plain
      exact enter_counted counted skip (by simpa [codes] using plain)
    | cons code outer =>
      rw [codes] at counted
      simp only [codes] at plain ⊢
      cases found : code.closer.width? (c :: rest) with
      | some width =>
        obtain ⟨k, rfl⟩ : ∃ k, width = k + 1 :=
          Nat.exists_eq_add_one.mpr (Closer.width?_eq_some found).1
        exact Counted.pass (counted.close found)
      | none =>
        simp only [found] at plain
        exact enter_counted (codes ▸ counted) skip (by simpa [codes] using plain)

theorem splitLabel?_tidy {t : Text} (counted : Counted r.codes r.skip t depth)
    (tidy : r.tidy t = true) :
    Link.splitLabel? depth t = Link.cutAt? Reader.step (·.codes.isEmpty) r t := by
  induction t generalizing r depth with
  | nil => rfl
  | cons c rest ih =>
    rw [Reader.tidy, Bool.and_eq_true, Bool.not_eq_true'] at tidy
    have later := ih (step_counted counted tidy.1) tidy.2
    have here : (c = '|' ∧ depth = 0) ↔ (c = '|' ∧ r.codes.isEmpty = true) := by
      apply and_congr_right
      rintro rfl
      have rested : r.skip = 0 := by
        by_contra skipped
        obtain ⟨k, skip⟩ := Nat.exists_eq_succ_of_ne_zero skipped
        apply counted.barless
        rw [skip, List.take_succ_cons]
        exact List.mem_cons_self
      rw [rested] at counted
      exact counted.eq_zero_iff
    rw [Link.splitLabel?, Link.cutAt?, ← later]
    simp only [here]
    rfl

end Reader

end PodSite.Inline

namespace PodSite.Link

open Inline (Reader)

/-- A bar outside of all codes. -/
def OutsideBar (raw front back : Text) : Prop :=
  FreeBar Reader.step (·.codes.isEmpty) .initial raw front back

/-- A label ends at the first bar outside of all codes, if there is one. -/
def Agrees (raw : Text) : Prop :=
  (∀ front back, splitLabel? 0 raw = some (front, back) ↔ OutsideBar raw front back ∧
    ∀ front' back', OutsideBar raw front' back' → front.length ≤ front'.length) ∧
  (splitLabel? 0 raw = none ↔ ∀ front back, ¬OutsideBar raw front back)

theorem agrees_iff (raw : Text) :
    Agrees raw ↔ splitLabel? 0 raw = cutAt? Reader.step (·.codes.isEmpty) .initial raw := by
  constructor
  · rintro ⟨cuts, none_cut⟩
    cases cut : cutAt? Reader.step (·.codes.isEmpty) .initial raw with
    | none => exact none_cut.mpr (cutAt?_eq_none_iff.mp cut)
    | some parts => exact (cuts parts.1 parts.2).mpr (cutAt?_eq_some_iff.mp cut)
  · intro same
    constructor
    · intro front back
      rw [same]
      exact cutAt?_eq_some_iff
    · rw [same]
      exact cutAt?_eq_none_iff

/-- The label is cut off as it should be just if, at each bar up to the first one outside of all
codes, angle brackets are open where codes are. This is so where no bracket strays. -/
theorem label_cut_agrees (raw : Text) :
    (Agrees raw ↔ ∀ front back,
      (∀ front' back', OutsideBar raw front' back' → front.length ≤ front'.length) →
        ((raw = front ++ '|' :: back ∧ front.foldl nest 0 = 0) ↔ OutsideBar raw front back)) ∧
    (Reader.initial.tidy raw = true → Agrees raw) := by
  constructor
  · rw [agrees_iff, splitLabel?_eq_cutAt?, cutAt?_eq_iff]
    simp only [FreeBar, OutsideBar, stateAfter_nest, beq_iff_eq]
  · intro tidy
    have start : Inline.Counted Reader.initial.codes Reader.initial.skip raw 0 := by
      refine ⟨by simp [Reader.initial], ?_, .inl ?_, ?_⟩
      · simp [Reader.initial, Inline.openAngles]
      · simp [Reader.initial]
      · simp [Reader.initial]
    rw [agrees_iff]
    exact Reader.splitLabel?_tidy start tidy

theorem label_cut_agrees_mixed :
    Agrees "a -> B<x|y> C<< p|q >>|Acme::Beta I<z".toList ∧
      splitLabel? 0 "a -> B<x|y> C<< p|q >>|Acme::Beta I<z".toList =
        some ("a -> B<x|y> C<< p|q >>".toList, "Acme::Beta I<z".toList) := by
  have tidy : Reader.initial.tidy "a -> B<x|y> C<< p|q >>|Acme::Beta I<z".toList = true := by
    decide +kernel
  exact ⟨(label_cut_agrees _).2 tidy, by decide +kernel⟩

theorem label_misses_bar :
    ¬Agrees "a < b|Acme::Beta".toList ∧ ¬Agrees "C<< a>> b|c >>|Acme::Beta".toList := by
  constructor
  · rintro ⟨-, none_cut⟩
    have cut : splitLabel? 0 "a < b|Acme::Beta".toList = none := by decide +kernel
    exact none_cut.mp cut "a < b".toList "Acme::Beta".toList ⟨rfl, rfl⟩
  · rintro ⟨cuts, -⟩
    have cut : splitLabel? 0 "C<< a>> b|c >>|Acme::Beta".toList =
        some ("C<< a>> b".toList, "c >>|Acme::Beta".toList) := by decide +kernel
    obtain ⟨⟨-, outside⟩, -⟩ := (cuts _ _).mp cut
    revert outside
    decide +kernel

end PodSite.Link
