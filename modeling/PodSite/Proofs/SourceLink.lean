import PodSite.Proofs.Href
import PodSite.Proofs.Site.Documents

/-!
The link from a page to the copy of its source. The names in it are written as they are, so it leads
to the copy just when every name reads as itself in a reference: none holds a mark that ends the
path, or a percent sign with two digits after it.
-/
namespace PodSite

namespace Href

def startsEscape : Text → Bool
  | '%' :: high :: low :: _ => (hexValue? high).isSome && (hexValue? low).isSome
  | _ => false

def hasEscape (t : Text) : Bool := t.tails.any startsEscape

def isPathChar (c : Char) : Bool := c != '#' && c != '?'

/-- The path of a reference, without query and fragment. -/
def pathOf (reference : Text) : Text := reference.takeWhile isPathChar

/-- A name that reads as itself in a reference. -/
def Literal (n : Text) : Prop := n.all isPathChar = true ∧ hasEscape n = false

instance : DecidablePred Literal := fun n =>
  inferInstanceAs (Decidable (n.all isPathChar = true ∧ hasEscape n = false))

section Decoding

open Text.Utf8 (Pending pieces)

theorem hasEscape_cons (c : Char) (t : Text) :
    hasEscape (c :: t) = (startsEscape (c :: t) || hasEscape t) := by
  simp [hasEscape, List.tails]

theorem encode_single (c : Char) : Text.Utf8.encode [c] = String.utf8EncodeChar c := by
  simp [Text.Utf8.encode]

theorem pieces_char_length {pending : Option Pending} (waits : ∀ p ∈ pending, p.Waits) (c : Char)
    (rest : Bytes) : (pieces pending (Text.Utf8.encode [c] ++ rest)).length =
      pending.toList.length + 1 + (pieces none rest).length := by
  rw [encode_single]
  cases pending with
  | none => simp [Text.Utf8.pieces_encodeChar, Nat.add_comm]
  | some p =>
    rw [Text.Utf8.pieces_interrupted (waits p rfl)]
    simp only [List.length_cons, Option.toList_some, List.length_nil]
    omega

theorem pieces_plain_length {c : Char} {rest : Text} {pending : Option Pending}
    (waits : ∀ p ∈ pending, p.Waits) (plain : startsEscape (c :: rest) = false)
    (later : (pieces none (segmentBytes rest)).length + (if hasEscape rest then 1 else 0) ≤
      rest.length) :
    (pieces pending (Text.Utf8.encode [c] ++ segmentBytes rest)).length +
      (if hasEscape (c :: rest) then 1 else 0) ≤ (c :: rest).length + pending.toList.length := by
  rw [pieces_char_length waits, hasEscape_cons, plain, Bool.false_or, List.length_cons]
  omega

/-- Reading a segment gives no more characters than it has, and fewer where there is an escape. -/
theorem pieces_segmentBytes_length (t : Text) (pending : Option Pending)
    (waits : ∀ p ∈ pending, p.Waits) :
    (pieces pending (segmentBytes t)).length + (if hasEscape t then 1 else 0) ≤
      t.length + pending.toList.length := by
  fun_induction segmentBytes t generalizing pending with
  | case1 high low rest h l isLow isHigh ih =>
    have count := Text.Utf8.readByte_count pending (UInt8.ofNat (h * 16 + l)).toNat
    have later := ih (Text.Utf8.readByte pending (UInt8.ofNat (h * 16 + l)).toNat).1
      fun p left => Text.Utf8.readByte_waits pending left
    have bound : (if hasEscape ('%' :: high :: low :: rest) then 1 else 0) ≤ 1 := by
      split <;> omega
    rw [pieces]
    simp only [List.length_append, List.length_cons]
    omega
  | case2 high low rest digits ih =>
    refine pieces_plain_length waits ?_ (ih none (by simp))
    cases isHigh : hexValue? high with
    | none => simp [startsEscape, isHigh]
    | some h =>
      cases isLow : hexValue? low with
      | none => simp [startsEscape, isLow]
      | some l => exact (digits h l isHigh isLow).elim
  | case3 c rest short ih =>
    refine pieces_plain_length waits ?_ (ih none (by simp))
    unfold startsEscape
    split
    · rename_i shape
      obtain ⟨rfl, rfl⟩ := List.cons.inj shape
      exact (short _ _ _ rfl rfl).elim
    · rfl
  | case4 =>
    cases pending with
    | none => simp [pieces, hasEscape, startsEscape]
    | some p => simp [pieces, hasEscape, startsEscape]

theorem segmentBytes_of_literal {t : Text} (literal : hasEscape t = false) :
    segmentBytes t = Text.Utf8.encode t := by
  have split : ∀ (c : Char) (rest : Text), Text.Utf8.encode (c :: rest) =
      Text.Utf8.encode [c] ++ Text.Utf8.encode rest := fun c rest => by simp [Text.Utf8.encode]
  fun_induction segmentBytes t with
  | case1 high low rest h l isLow isHigh ih =>
    simp [hasEscape_cons, startsEscape, isLow, isHigh] at literal
  | case2 high low rest digits ih =>
    rw [hasEscape_cons, Bool.or_eq_false_iff] at literal
    rw [ih literal.2, ← split]
  | case3 c rest short ih =>
    rw [hasEscape_cons, Bool.or_eq_false_iff] at literal
    rw [ih literal.2, ← split]
  | case4 => rfl

theorem decodeSegment_length_le (t : Text) : (decodeSegment t).length ≤ t.length := by
  have bound := pieces_segmentBytes_length t none (by simp)
  simp only [Option.toList_none, List.length_nil] at bound
  rw [decodeSegment, Text.Utf8.decodeLossy, List.length_map]
  omega

theorem decodeSegment_eq_self {t : Text} : decodeSegment t = t ↔ hasEscape t = false := by
  constructor
  · intro same
    have bound := pieces_segmentBytes_length t none (by simp)
    have whole : (pieces none (segmentBytes t)).length = t.length := by
      rw [← congrArg List.length same, decodeSegment, Text.Utf8.decodeLossy, List.length_map]
    by_contra escape
    simp only [Bool.not_eq_false] at escape
    simp only [escape, ↓reduceIte, Option.toList_none, List.length_nil] at bound
    omega
  · intro literal
    rw [decodeSegment, segmentBytes_of_literal literal, Text.Utf8.decodeLossy_encode]

end Decoding

section Cutting

def cutSegments : List Text → List Text
  | [] => []
  | n :: rest => if n.all isPathChar then n :: cutSegments rest else [pathOf n]

theorem cutSegments_append {front : List Text} (whole : ∀ n ∈ front, n.all isPathChar = true)
    (back : List Text) : cutSegments (front ++ back) = front ++ cutSegments back := by
  induction front with
  | nil => rfl
  | cons n front ih =>
    obtain ⟨here, later⟩ := List.forall_mem_cons.mp whole
    rw [List.cons_append, cutSegments, if_pos here, ih later, List.cons_append]

theorem cutSegments_ne_nil {segments : List Text} (some : segments ≠ []) :
    cutSegments segments ≠ [] := by
  obtain ⟨n, rest, rfl⟩ := List.exists_cons_of_ne_nil some
  rw [cutSegments]
  split <;> simp

theorem mem_cutSegments {segments : List Text} {m : Text} (member : m ∈ cutSegments segments) :
    m.all isPathChar = true ∧ ∃ n ∈ segments, m <+: n := by
  induction segments with
  | nil => simp [cutSegments] at member
  | cons n rest ih =>
    rw [cutSegments] at member
    split at member
    · rename_i whole
      rcases List.mem_cons.mp member with rfl | member
      · exact ⟨whole, m, by simp, List.prefix_rfl⟩
      · obtain ⟨kept, other, listed, front⟩ := ih member
        exact ⟨kept, other, List.mem_cons_of_mem n listed, front⟩
    · obtain rfl := List.mem_singleton.mp member
      exact ⟨List.all_takeWhile, n, by simp, List.takeWhile_prefix _⟩

theorem pathOf_shorter {n : Text} (cut : ¬n.all isPathChar = true) :
    (pathOf n).length < n.length := by
  have front : pathOf n <+: n := List.takeWhile_prefix isPathChar
  refine Nat.lt_of_le_of_ne front.length_le fun same => cut ?_
  have whole : pathOf n = n := front.eq_of_length same
  rw [← whole]
  exact List.all_takeWhile

theorem pathOf_append_whole {n : Text} (whole : n.all isPathChar = true) (t : Text) :
    pathOf (n ++ t) = n ++ pathOf t :=
  List.takeWhile_append_of_pos (List.all_eq_true.mp whole)

theorem pathOf_append_cut {n : Text} (cut : ¬n.all isPathChar = true) (t : Text) :
    pathOf (n ++ t) = pathOf n := by
  have shorter : (n.takeWhile isPathChar).length ≠ n.length := Nat.ne_of_lt (pathOf_shorter cut)
  rw [pathOf, List.takeWhile_append, if_neg shorter, pathOf]

theorem pathOf_slashed (segments : List Text) :
    pathOf (['/'].intercalate segments) = ['/'].intercalate (cutSegments segments) := by
  induction segments with
  | nil => rfl
  | cons n rest ih =>
    rw [cutSegments]
    by_cases last : rest = []
    · subst last
      rw [List.intercalate_singleton]
      split
      · rename_i whole
        have same := pathOf_append_whole whole []
        simpa [cutSegments, pathOf] using same
      · rw [List.intercalate_singleton]
    · rw [List.intercalate_cons_of_ne_nil last, List.append_assoc]
      split
      · rename_i whole
        rw [pathOf_append_whole whole, List.intercalate_cons_of_ne_nil (cutSegments_ne_nil last),
          ← ih, List.append_assoc]
        rfl
      · rename_i cut
        rw [pathOf_append_cut cut, List.intercalate_singleton]

theorem followSegment_cases (p : Path) (m : Text) : followSegment p m = p ∨
    followSegment p m = p.dropLast ∨ followSegment p m = p ++ [.name (decodeSegment m)] := by
  unfold followSegment
  split <;> simp

theorem followSegment_fileName {n : Text} (valid : n.IsFileName) (p : Path) :
    followSegment p n = p ++ [.name (decodeSegment n)] := by
  obtain ⟨full, dot, dots, _⟩ := valid
  simp [followSegment, Component.ofSegment, full, dot, dots]

variable {names : List Text} (valid : ∀ n ∈ names, n.IsFileName)
include valid

theorem followSegments_below (p : Path) :
    (cutSegments names).foldl followSegment p = p.dropLast ∨
      p <+: (cutSegments names).foldl followSegment p := by
  induction names generalizing p with
  | nil => exact Or.inr List.prefix_rfl
  | cons n rest ih =>
    obtain ⟨here, later⟩ := List.forall_mem_cons.mp valid
    rw [cutSegments]
    split
    · rw [List.foldl_cons, followSegment_fileName here]
      rcases ih later (p ++ [.name (decodeSegment n)]) with above | below
      · rw [above, List.dropLast_concat]
        exact Or.inr List.prefix_rfl
      · exact Or.inr ((List.prefix_append p _).trans below)
    · rw [List.foldl_cons, List.foldl_nil]
      rcases followSegment_cases p (pathOf n) with same | above | below
      · rw [same]
        exact Or.inr List.prefix_rfl
      · exact Or.inl above
      · exact Or.inr (by rw [below]; exact List.prefix_append p _)

/-- Names lead to the path that is made of them just when each reads as itself. -/
theorem followSegments_cutSegments (p : Path) :
    (cutSegments names).foldl followSegment p = p ++ Path.ofNames names ↔
      ∀ n ∈ names, Literal n := by
  induction names generalizing p with
  | nil => simp [cutSegments, Path.ofNames]
  | cons n rest ih =>
    obtain ⟨here, later⟩ := List.forall_mem_cons.mp valid
    rw [List.forall_mem_cons, cutSegments]
    split
    · rename_i whole
      rw [List.foldl_cons, followSegment_fileName here]
      by_cases same : decodeSegment n = n
      · have literal : Literal n := ⟨whole, decodeSegment_eq_self.mp same⟩
        have next := ih later (p ++ [.name n])
        simpa [same, literal, Path.ofNames] using next
      -- past a wrong name the way ends above or below it, never where it should
      · refine iff_of_false (fun reached => ?_) fun literal =>
          same (decodeSegment_eq_self.mpr literal.1.2)
        rcases followSegments_below later (p ++ [.name (decodeSegment n)]) with above | below
        · rw [above, List.dropLast_concat] at reached
          simpa [Path.ofNames] using congrArg List.length reached
        · rw [reached, List.prefix_append_right_inj] at below
          simp [Path.ofNames, same] at below
    · rename_i cut
      -- nothing comes after a cut segment, and it is shorter than the name
      refine iff_of_false (fun reached => ?_) fun literal => cut literal.1.1
      have longer : p.length < (p ++ Path.ofNames (n :: rest)).length := by simp [Path.ofNames]
      rw [List.foldl_cons, List.foldl_nil] at reached
      rcases followSegment_cases p (pathOf n) with same | above | below
      · rw [← reached, same] at longer
        omega
      · rw [← reached, above, List.length_dropLast] at longer
        omega
      · rw [below, List.append_cancel_left_eq] at reached
        have named : decodeSegment (pathOf n) = n :=
          Component.name.inj (List.cons.inj reached).1
        have short := decodeSegment_length_le (pathOf n)
        rw [named] at short
        exact absurd (pathOf_shorter cut) (Nat.not_lt.mpr short)

end Cutting

theorem intercalate_up (steps : Nat) {rest : List Text} (some : rest ≠ []) :
    ['/'].intercalate (List.replicate steps ['.', '.'] ++ rest) =
      (List.replicate steps "../".toList).flatten ++ ['/'].intercalate rest := by
  induction steps with
  | zero => rfl
  | succ steps ih =>
    rw [List.replicate_succ, List.cons_append, List.intercalate_cons_of_ne_nil (by simp [some]), ih,
      List.replicate_succ, List.flatten_cons, List.append_assoc, List.append_assoc]
    rfl

end Href

theorem Path.isFileName_of_ofText {written n : Text} (member : .name n ∈ ofText written) :
    n.IsFileName := by
  obtain ⟨rest, shape, read⟩ := ofText_shape written
  have inside : .name n ∈ rest := by
    rcases read with rooted | dotted | plain
    · simpa [rooted] using member
    · simpa [dotted] using member
    · rwa [plain] at member
  rcases shape _ inside with up | ⟨m, same, valid⟩
  · cases up
  · cases same
    exact valid

namespace Document

theorem made_valid {out root : Path} {written : Text} {g : Group} {m : Nat} {d : Document}
    (made : ofSource? out g root (Path.ofText written) m = some d) :
    ∀ n ∈ d.relative, n.IsFileName := by
  obtain ⟨rest, below, named, _⟩ := ofSource?_made made
  obtain ⟨_, names⟩ := names_eq_some_iff.mp (Option.filter_eq_some_iff.mp named).1
  intro n member
  rw [← names] at member
  obtain ⟨part, there, name⟩ := List.mem_filterMap.mp member
  cases part with
  | name k =>
    cases name
    have inside : .name n ∈ Path.ofText written := by
      rw [Path.below?_eq_some below]
      exact List.mem_append_right root there
    exact Path.isFileName_of_ofText inside
  | root => cases name
  | current => cases name
  | parent => cases name

theorem count_slashed {front : List Text} {last : Text}
    (whole : ∀ n ∈ front ++ [last], '/' ∉ n) :
    (slashed (front ++ [last])).count '/' = front.length := by
  induction front with
  | nil => simpa [slashed, List.count_eq_zero] using whole
  | cons n front ih =>
    obtain ⟨here, later⟩ := List.forall_mem_cons.mp whole
    have rest := ih later
    rw [slashed] at rest
    rw [slashed, List.cons_append, List.intercalate_cons_of_ne_nil (by simp), List.count_append,
      List.count_append, rest, List.count_eq_zero.mpr here, List.length_cons]
    simp [Nat.add_comm]

theorem copyHref?_eq {out root : Path} {written : Text} {g : Group} {m : Nat} {d : Document}
    (made : ofSource? out g root (Path.ofText written) m = some d)
    (shared : g.sharesSource = true) (parsed : g.kind.isBinary = false) :
    ∃ front last, d.relative = front ++ [last] ∧ (∀ n ∈ d.relative, n.IsFileName) ∧
      d.output.dropLast = out ++ Path.ofNames front ∧
      d.copy = out ++ [.name "src".toList] ++ Path.ofNames d.relative ∧
      d.copyHref? = some (['/'].intercalate
        (List.replicate front.length ['.', '.'] ++ ["src".toList] ++ d.relative)) := by
  have valid := made_valid made
  simp only [ofSource?, bind, Option.bind_eq_some_iff, pure, Option.some.injEq] at made
  obtain ⟨rest, below, names, named, rfl⟩ := made
  have some : names ≠ [] := by simpa using (Option.filter_eq_some_iff.mp named).2
  obtain ⟨front, last, rfl⟩ : ∃ front last, names = front ++ [last] :=
    ⟨_, _, (List.dropLast_concat_getLast some).symm⟩
  have page : pageNames (front ++ [last]) = front ++ [last ++ ".html".toList] := by
    simp [pageNames]
  have whole : ∀ n ∈ front ++ [last ++ ".html".toList], '/' ∉ n := by
    intro n member
    rcases List.mem_append.mp member with early | ends
    · exact (valid n (List.mem_append_left _ early)).2.2.2
    · rw [List.mem_singleton.mp ends, List.mem_append, not_or]
      exact ⟨(valid last (by simp)).2.2.2, by decide⟩
  refine ⟨front, last, rfl, valid, ?_, rfl, ?_⟩
  · simp only [parsed, Bool.false_eq_true, if_false, page]
    simp [Path.ofNames]
  · simp only [copyHref?, shared, if_true, rootHref, parsed, Bool.false_eq_true, if_false, page,
      count_slashed whole]
    rw [List.append_assoc (List.replicate front.length ['.', '.']),
      Href.intercalate_up _ (by simp), List.singleton_append,
      List.intercalate_cons_of_ne_nil (by simp), slashed, List.append_assoc]
    rfl

/-- The link from a page leads to the copy of its source just when every name of the source reads as
itself. -/
theorem follow_copyHref {out root : Path} {written : Text} {g : Group} {m : Nat} {d : Document}
    (made : ofSource? out g root (Path.ofText written) m = some d)
    (shared : g.sharesSource = true) (parsed : g.kind.isBinary = false) :
    ∃ href, d.copyHref? = some href ∧
      (Href.follow d.output (Href.pathOf href) = d.copy ↔ ∀ n ∈ d.relative, Href.Literal n) := by
  obtain ⟨front, last, names, valid, directory, copy, href⟩ := copyHref?_eq made shared parsed
  refine ⟨_, href, ?_⟩
  generalize steps : List.replicate front.length ['.', '.'] ++ ["src".toList] = up at href
  have safe : ∀ n ∈ up, n.all Href.isPathChar = true ∧ '/' ∉ n := by
    rw [← steps]
    intro n member
    rcases List.mem_append.mp member with dots | src
    · rw [(List.mem_replicate.mp dots).2]
      decide
    · rw [List.mem_singleton.mp src]
      decide
  have plain : ∀ segment ∈ Href.cutSegments (up ++ d.relative), ∀ c ∈ segment,
      c ≠ '/' ∧ c ≠ '#' := by
    intro segment listed c member
    obtain ⟨kept, n, source, start⟩ := Href.mem_cutSegments listed
    have slashless : '/' ∉ n := by
      rcases List.mem_append.mp source with above | below
      · exact (safe n above).2
      · exact (valid n below).2.2.2
    have path := List.all_eq_true.mp kept c member
    refine ⟨?_, ?_⟩
    · rintro rfl
      exact slashless (start.subset member)
    · rintro rfl
      cases path
  -- up to the output root, then into the directory of the copies
  have climbed : up.foldl Href.followSegment (out ++ Path.ofNames front) =
      out ++ [.name "src".toList] := by
    have top : (out ++ Path.ofNames front).take
        ((out ++ Path.ofNames front).length - front.length) = out := by
      simp [Path.ofNames]
    rw [← steps, List.foldl_append, Href.followSegments_up, top]
    rfl
  have followed := @Href.follow_slashed _ plain [] (by simp) d.output
  rw [List.append_nil, ← Href.pathOf_slashed,
    Href.cutSegments_append fun n member => (safe n member).1, List.foldl_append, directory,
    climbed] at followed
  rw [followed, copy]
  exact Href.followSegments_cutSegments valid _

def moduleGroup : Group := ⟨"Modules".toList, .modules, ["pm".toList], .lines, true, none⟩

theorem follow_copyHref_odd :
    ∃ d href, ofSource? (Path.absolute ["o".toList]) moduleGroup (Path.absolute ["l".toList])
        (Path.ofText "/l/a b/./é%2.pm".toList) 0 = some d ∧
      d.copyHref? = some href ∧ href = "../src/a b/é%2.pm".toList ∧
      Href.follow d.output (Href.pathOf href) = d.copy := by
  obtain ⟨d, made⟩ : ∃ d, ofSource? (Path.absolute ["o".toList]) moduleGroup
      (Path.absolute ["l".toList]) (Path.ofText "/l/a b/./é%2.pm".toList) 0 = some d := ⟨_, rfl⟩
  obtain ⟨href, shown, leads⟩ := follow_copyHref made rfl rfl
  cases made
  exact ⟨_, href, rfl, shown, by cases shown; decide +kernel, leads.mpr (by decide +kernel)⟩

theorem copyHref_misses_copy : moduleGroup.sharesSource = true ∧ moduleGroup.kind.isBinary = false ∧
    ∃ d, ofSource? (Path.absolute ["out".toList]) moduleGroup (Path.absolute ["lib".toList])
        (Path.ofText "/lib/C#1.pm".toList) 0 = some d ∧
      d.copyHref? = some "src/C#1.pm".toList ∧
      d.copy = Path.absolute ["out".toList, "src".toList, "C#1.pm".toList] ∧
      Href.follow d.output (Href.pathOf "src/C#1.pm".toList) =
        Path.absolute ["out".toList, "src".toList, "C".toList] ∧
      Href.follow d.output (Href.pathOf "src/C#1.pm".toList) ≠ d.copy :=
  ⟨rfl, rfl, _, rfl, by decide +kernel, by decide +kernel, by decide +kernel, by decide +kernel⟩

end Document
end PodSite
