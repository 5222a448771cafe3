import PodSite.Href
import PodSite.Proofs.Path
import PodSite.Proofs.Text.Runs
import PodSite.Proofs.Text.Utf8

/-!
Following a link: what a relative reference on a page leads to. The references that are written from
one page to another lead there.
-/
namespace PodSite

namespace Href

def hexValue? (c : Char) : Option Nat :=
  let n := c.toNat
  if 48 ≤ n ∧ n ≤ 57 then some (n - 48)
  else if 65 ≤ n ∧ n ≤ 70 then some (n - 55)
  else if 97 ≤ n ∧ n ≤ 102 then some (n - 87)
  else none

/-- The bytes of a percent-encoded segment; a percent sign without two digits stands for itself. -/
def segmentBytes : Text → Bytes
  | '%' :: high :: low :: rest =>
    match hexValue? high, hexValue? low with
    | some h, some l => UInt8.ofNat (h * 16 + l) :: segmentBytes rest
    | _, _ => Text.Utf8.encode ['%'] ++ segmentBytes (high :: low :: rest)
  | c :: rest => Text.Utf8.encode [c] ++ segmentBytes rest
  | [] => []

def decodeSegment (segment : Text) : Text := Text.Utf8.decodeLossy (segmentBytes segment)

/-- Where one segment of a reference leads. -/
def followSegment (at_path : Path) (segment : Text) : Path :=
  match Component.ofSegment segment with
  | .current => at_path
  | .parent => at_path.dropLast
  | _ => at_path ++ [.name (decodeSegment segment)]

/-- Where a relative reference on the page at `here` leads; the part of a page after the number sign
does not count. -/
def follow (here : Path) (reference : Text) : Path :=
  (Text.splitOn '/' (reference.takeWhile (· != '#'))).foldl followSegment here.dropLast

theorem hexValue?_hexDigit {n : Nat} (small : n < 16) : hexValue? (hexDigit n) = some n := by
  have all : ∀ n < 16, hexValue? (hexDigit n) = some n := by decide
  exact all n small

theorem segmentBytes_cons {c : Char} (plain : c ≠ '%') (rest : Text) :
    segmentBytes (c :: rest) = Text.Utf8.encode [c] ++ segmentBytes rest := by
  rw [segmentBytes.eq_def]
  split
  · rename_i same
    exact absurd (List.cons.inj same).1 plain
  · rename_i same
    obtain ⟨rfl, rfl⟩ := List.cons.inj same
    rfl
  · rename_i same
    cases same

theorem encode_unreserved {b : UInt8} (unreserved : isUnreserved b = true) :
    Text.Utf8.encode [Char.ofNat b.toNat] = [b] ∧ Char.ofNat b.toNat ≠ '%' := by
  have all : ∀ n < 256, isUnreserved (UInt8.ofNat n) = true →
      Text.Utf8.encode [Char.ofNat n] = [UInt8.ofNat n] ∧ Char.ofNat n ≠ '%' := by
    decide +kernel
  have := all b.toNat b.toNat_lt_size
  rw [UInt8.ofNat_toNat] at this
  exact this unreserved

theorem segmentBytes_encodeByte (b : UInt8) (rest : Text) :
    segmentBytes (encodeByte b ++ rest) = b :: segmentBytes rest := by
  have bound : b.toNat < 256 := b.toNat_lt_size
  unfold encodeByte
  split
  · rename_i unreserved
    obtain ⟨bytes, plain⟩ := encode_unreserved unreserved
    rw [List.singleton_append, segmentBytes_cons plain, bytes, List.singleton_append]
  · rw [List.cons_append, List.cons_append, List.cons_append, List.nil_append, segmentBytes,
      hexValue?_hexDigit (by omega), hexValue?_hexDigit (by omega)]
    have whole : b.toNat / 16 * 16 + b.toNat % 16 = b.toNat := by omega
    simp only [whole, UInt8.ofNat_toNat]

theorem decodeSegment_encodeSegment (segment : Text) :
    decodeSegment (encodeSegment segment) = segment := by
  have bytes : ∀ bs : Bytes, segmentBytes (bs.flatMap encodeByte) = bs := by
    intro bs
    induction bs with
    | nil => rfl
    | cons b bs ih => rw [List.flatMap_cons, segmentBytes_encodeByte, ih]
  rw [decodeSegment, encodeSegment, bytes, Text.Utf8.decodeLossy_encode]

theorem encodeSegment_plain (segment : Text) :
    ∀ c ∈ encodeSegment segment, c ≠ '/' ∧ c ≠ '#' ∧ c ≠ '?' ∧ c ≠ ':' := by
  have all : ((List.range 256).all fun n => (encodeByte (UInt8.ofNat n)).all fun c =>
      c != '/' && (c != '#' && (c != '?' && c != ':'))) = true := by decide +kernel
  intro c member
  obtain ⟨b, _, here⟩ := List.mem_flatMap.mp member
  have byte := List.all_eq_true.mp all b.toNat (List.mem_range.mpr b.toNat_lt_size)
  rw [UInt8.ofNat_toNat] at byte
  simpa using List.all_eq_true.mp byte c here

theorem ofSegment_encodeSegment {n : Text} (valid : n.IsFileName) :
    Component.ofSegment (encodeSegment n) = .name (encodeSegment n) := by
  obtain ⟨full, dot, dots, _⟩ := valid
  have other : ∀ special, decodeSegment special = special → n ≠ special →
      encodeSegment n ≠ special := by
    intro special itself different same
    have back := decodeSegment_encodeSegment n
    rw [same, itself] at back
    exact different back.symm
  rw [Component.ofSegment, if_neg, if_neg]
  · exact other ['.', '.'] (by decide) dots
  · rintro (empty | one)
    · exact other [] (by decide) full empty
    · exact other ['.'] (by decide) dot one

theorem followSegments_names {names : List Text} (valid : ∀ n ∈ names, n.IsFileName) (p : Path) :
    (names.map encodeSegment).foldl followSegment p = p ++ Path.ofNames names := by
  induction names generalizing p with
  | nil => simp [Path.ofNames]
  | cons n names ih =>
    have first : followSegment p (encodeSegment n) = p ++ [.name n] := by
      rw [followSegment, ofSegment_encodeSegment (valid n (by simp)), decodeSegment_encodeSegment]
    rw [List.map_cons, List.foldl_cons, first, ih fun m later => valid m (by simp [later])]
    simp [Path.ofNames]

theorem followSegments_up (steps : Nat) (p : Path) :
    (List.replicate steps ['.', '.']).foldl followSegment p = p.take (p.length - steps) := by
  induction steps generalizing p with
  | zero => simp
  | succ steps ih =>
    have first : followSegment p ['.', '.'] = p.dropLast := by
      simp [followSegment, Component.ofSegment]
    rw [List.replicate_succ, List.foldl_cons, first, ih, List.dropLast_eq_take, List.take_take,
      List.length_take]
    congr 1
    omega

end Href

namespace Path

theorem common_append (root p q : Path) :
    common (root ++ p) (root ++ q) = root.length + common p q := by
  induction root with
  | nil => simp
  | cons part root ih =>
    rw [List.cons_append, List.cons_append, common, if_pos rfl, ih, List.length_cons]
    omega

theorem common_take (p q : Path) :
    p.take (common p q) = q.take (common p q) ∧ common p q ≤ p.length := by
  induction p generalizing q with
  | nil => simp [common]
  | cons a p ih =>
    cases q with
    | nil => simp [common]
    | cons b q =>
      rw [common]
      split
      · rename_i same
        obtain ⟨shared, bound⟩ := ih q
        simp [same, shared, bound]
      · simp

end Path

namespace Href

theorem mem_slashed {c : Char} {segments : List Text} (member : c ∈ ['/'].intercalate segments) :
    c = '/' ∨ ∃ segment ∈ segments, c ∈ segment :=
  (Text.mem_intercalate member).imp_left List.mem_singleton.mp

theorem follow_slashed {segments : List Text} (plain : ∀ segment ∈ segments, ∀ c ∈ segment,
    c ≠ '/' ∧ c ≠ '#') {tail : Text} (part : ∀ c ∈ tail.head?, c = '#') (here : Path) :
    follow here (['/'].intercalate segments ++ tail) =
      segments.foldl followSegment here.dropLast := by
  have kept : ∀ c ∈ ['/'].intercalate segments, (c != '#') = true := by
    intro c member
    rcases mem_slashed member with rfl | ⟨segment, listed, there⟩
    · decide
    · simpa using (plain segment listed c there).2
  have cut : tail.takeWhile (· != '#') = [] := by
    cases tail with
    | nil => rfl
    | cons c tail => simp [part c (by simp)]
  rw [follow, List.takeWhile_append_of_pos kept, cut, List.append_nil, Text.splitOn_eq]
  by_cases some : segments = []
  · subst some
    rfl
  · rw [List.splitOn_intercalate '/' (fun segment listed slash =>
      (plain segment listed '/' slash).1 rfl) some]

/-- A segment that goes up, or down to a name. -/
def IsStep (segment : Text) : Prop :=
  segment = ['.', '.'] ∨ ∃ n : Text, n.IsFileName ∧ segment = encodeSegment n

theorem IsStep.plain {segment : Text} (step : IsStep segment) :
    ∀ c ∈ segment, c ≠ '/' ∧ c ≠ '#' ∧ c ≠ '?' ∧ c ≠ ':' := by
  obtain rfl | ⟨n, _, rfl⟩ := step
  · simp
  · exact encodeSegment_plain n

def segmentsTo (dir names : List Text) : List Text :=
  let shared := Path.common (Path.ofNames dir) (Path.ofNames names)
  List.replicate (dir.length - shared) ['.', '.'] ++ (names.drop shared).map encodeSegment

theorem segmentsTo_steps {names : List Text} (valid : ∀ n ∈ names, n.IsFileName)
    (dir : List Text) : ∀ segment ∈ segmentsTo dir names, IsStep segment := by
  intro segment listed
  rcases List.mem_append.mp listed with up | down
  · exact Or.inl (List.mem_replicate.mp up).2
  · obtain ⟨n, member, rfl⟩ := List.mem_map.mp down
    exact Or.inr ⟨n, valid n (List.mem_of_mem_drop member), rfl⟩

theorem relative_eq (root : Path) (dir : List Text) (last : Text) (names : List Text) :
    relative (root ++ Path.ofNames (dir ++ [last])) (root ++ Path.ofNames names) =
      ['/'].intercalate (segmentsTo dir names) := by
  have above : (Path.parent? (root ++ Path.ofNames (dir ++ [last]))).getD [] =
      root ++ Path.ofNames dir := by
    simp [Path.parent?, Path.ofNames, List.getLast?_append]
  have ups : ∀ k, (root ++ Path.ofNames dir).length - (root.length + k) = dir.length - k := by
    intro k
    simp [Path.ofNames, Nat.add_sub_add_left]
  have down : ∀ k, ((root ++ Path.ofNames names).drop (root.length + k)).map
      (fun c => encodeSegment c.spell) = (names.drop k).map encodeSegment := by
    intro k
    rw [List.drop_append, List.drop_eq_nil_of_le (by omega), List.nil_append,
      Nat.add_sub_cancel_left, Path.ofNames, ← List.map_drop, List.map_map]
    rfl
  rw [relative, above, Path.common_append, ups, down]
  rfl

theorem followSegments_segmentsTo (root : Path) (dir : List Text) {names : List Text}
    (valid : ∀ n ∈ names, n.IsFileName) :
    (segmentsTo dir names).foldl followSegment (root ++ Path.ofNames dir) =
      root ++ Path.ofNames names := by
  unfold segmentsTo
  generalize shared : Path.common (Path.ofNames dir) (Path.ofNames names) = k
  obtain ⟨same, bound⟩ := Path.common_take (Path.ofNames dir) (Path.ofNames names)
  rw [shared] at same bound
  have shorter : (root ++ Path.ofNames dir).length - (dir.length - k) = root.length + k := by
    have short : k ≤ dir.length := by simpa [Path.ofNames] using bound
    simp only [List.length_append, Path.ofNames, List.length_map]
    omega
  calc (List.replicate (dir.length - k) ['.', '.'] ++ (names.drop k).map encodeSegment).foldl
        followSegment (root ++ Path.ofNames dir)
      = ((names.drop k).map encodeSegment).foldl followSegment
          ((root ++ Path.ofNames dir).take (root.length + k)) := by
        rw [List.foldl_append, followSegments_up, shorter]
    _ = (root ++ (Path.ofNames dir).take k) ++ Path.ofNames (names.drop k) := by
        rw [followSegments_names fun n member => valid n (List.mem_of_mem_drop member),
          List.take_length_add_append]
    _ = root ++ ((Path.ofNames names).take k ++ (Path.ofNames names).drop k) := by
        rw [same, List.append_assoc, Path.ofNames, Path.ofNames, List.map_drop]
    _ = root ++ Path.ofNames names := by rw [List.take_append_drop]

/-- The reference from one page to another below the same root leads there, also with a part of the
page after it. -/
theorem follow_relative {root : Path} {dir names : List Text} (last : Text)
    (valid : ∀ n ∈ names, n.IsFileName) {tail : Text} (part : ∀ c ∈ tail.head?, c = '#') :
    let here := root ++ Path.ofNames (dir ++ [last])
    let target := root ++ Path.ofNames names
    follow here (relative here target ++ tail) = target := by
  intro here target
  have base : here.dropLast = root ++ Path.ofNames dir := by simp [here, Path.ofNames]
  have plain : ∀ segment ∈ segmentsTo dir names, ∀ c ∈ segment, c ≠ '/' ∧ c ≠ '#' := by
    intro segment listed c member
    obtain ⟨slash, mark, _⟩ := (segmentsTo_steps valid dir segment listed).plain c member
    exact ⟨slash, mark⟩
  rw [relative_eq, follow_slashed plain part, base, followSegments_segmentsTo root dir valid]

def resolveSegment (at_path : Path) (segment : Text) : Path :=
  if segment = ['.', '.'] then at_path.dropLast else at_path ++ [.name (decodeSegment segment)]

def resolve (here : Path) (reference : Text) : Path :=
  (Text.splitOn '/' reference).foldl resolveSegment here.dropLast

theorem IsStep.resolveSegment {segment : Text} (step : IsStep segment) (p : Path) :
    resolveSegment p segment = followSegment p segment := by
  obtain rfl | ⟨n, valid, rfl⟩ := step
  · rfl
  · have named := ofSegment_encodeSegment valid
    have down : encodeSegment n ≠ ['.', '.'] := by
      intro up
      rw [up] at named
      cases named
    rw [Href.resolveSegment, if_neg down, followSegment, named]

theorem IsStep.ne_nil {segment : Text} (step : IsStep segment) : segment ≠ [] := by
  obtain rfl | ⟨n, valid, rfl⟩ := step
  · simp
  · intro empty
    have back := decodeSegment_encodeSegment n
    rw [empty] at back
    exact valid.1 back.symm

theorem segmentsTo_ne_nil {dir names : List Text} (differ : names ≠ dir) :
    segmentsTo dir names ≠ [] := by
  intro empty
  obtain ⟨same, bound⟩ := Path.common_take (Path.ofNames dir) (Path.ofNames names)
  obtain ⟨ups, downs⟩ := List.append_eq_nil_iff.mp empty
  have low : dir.length ≤ Path.common (Path.ofNames dir) (Path.ofNames names) := by
    simpa [Nat.sub_eq_zero_iff_le] using ups
  have high : names.length ≤ Path.common (Path.ofNames dir) (Path.ofNames names) := by
    simpa using downs
  rw [List.take_of_length_le (by simpa [Path.ofNames] using low),
    List.take_of_length_le (by simpa [Path.ofNames] using high)] at same
  exact differ (Path.absolute_injective (congrArg (Component.root :: ·) same.symm))

/-- Applied to the page it is written for, the reference to a file leads there; it is relative, and
has neither a scheme nor a query nor a fragment. -/
theorem resolve_relative {here target : Location} (file : here ≠ [])
    (valid : ∀ n ∈ target, n.IsFileName) (apart : target <+: here → target = here) :
    let href := relative (Path.absolute here) (Path.absolute target)
    href.head? ≠ some '/' ∧ (∀ c ∈ href, c ≠ ':' ∧ c ≠ '?' ∧ c ≠ '#') ∧
      resolve (Path.absolute here) href = Path.absolute target := by
  intro href
  obtain ⟨dir, last, rfl⟩ : ∃ dir last, here = dir ++ [last] :=
    ⟨_, _, (List.dropLast_concat_getLast file).symm⟩
  have written : href = ['/'].intercalate (segmentsTo dir target) :=
    relative_eq [.root] dir last target
  have steps := segmentsTo_steps valid dir
  have differ : target ≠ dir := by
    rintro rfl
    simpa using apart (List.prefix_append target [last])
  have cut : Text.splitOn '/' href = segmentsTo dir target := by
    rw [written, Text.splitOn_eq]
    exact List.splitOn_intercalate '/' (fun segment listed slash =>
      ((steps segment listed).plain '/' slash).1 rfl) (segmentsTo_ne_nil differ)
  refine ⟨fun slash => ?_, fun c member => ?_, ?_⟩
  · -- a slash in front would leave an empty segment
    obtain ⟨rest, shape⟩ := List.head?_eq_some_iff.mp slash
    rw [shape, Text.splitOn, if_pos rfl] at cut
    exact (steps [] (cut ▸ List.mem_cons_self)).ne_nil rfl
  · rw [written] at member
    rcases mem_slashed member with rfl | ⟨segment, listed, there⟩
    · decide
    · obtain ⟨_, fragment, query, scheme⟩ := (steps segment listed).plain c there
      exact ⟨scheme, query, fragment⟩
  · have base : (Path.absolute (dir ++ [last])).dropLast = [.root] ++ Path.ofNames dir := by
      rw [Path.absolute_append]
      exact List.dropLast_concat
    rw [resolve, cut, base, List.foldl_ext _ followSegment _ fun p segment listed =>
      (steps segment listed).resolveSegment p]
    exact followSegments_segmentsTo [.root] dir valid

theorem resolve_relative_odd :
    let here : Location := ["o".toList, "é".toList, "x".toList, "p.html".toList]
    let target : Location := ["o".toList, "é".toList, "a:b?c#d%2F ..".toList]
    let href := relative (Path.absolute here) (Path.absolute target)
    href = "../a%3Ab%3Fc%23d%252F%20..".toList ∧ href.head? ≠ some '/' ∧
      resolve (Path.absolute here) href = Path.absolute target := by
  intro here target href
  obtain ⟨relative, _, there⟩ := @resolve_relative here target (by decide) (by decide) (by decide)
  exact ⟨by decide +kernel, relative, there⟩

end Href
end PodSite
