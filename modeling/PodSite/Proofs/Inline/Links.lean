import PodSite.Proofs.Html.Anchors
import PodSite.Proofs.Inline.Written

/-!
Links inside links. A label never shows a link, but a code span that names a known module becomes a
link around its whole content, and links in that content stay links. That is the only way in which
one link comes to stand inside another.
-/
namespace PodSite.Inline

theorem words_apart (inside : Bool) (mode : Mode) (t : Text) :
    Html.apartAll inside (words mode t) = true := by
  unfold words
  split
  · induction t with
    | nil => rfl
    | cons c t ih =>
      rw [List.map_cons, Html.apartAll, ih, Bool.and_true]
      split <;> rfl
  · rfl

theorem running_apart (s : Setting) (mode : Mode) (t : Text) :
    Html.apartAll false (running s mode t) = true := by
  unfold running
  induction ModuleName.pieces none 0 t with
  | nil => rfl
  | cons piece rest ih =>
    rw [List.flatMap_cons, Html.apartAll_append, ih, Bool.and_true]
    cases piece with
    | plain t => exact words_apart false mode t
    | name n =>
      rw [pieceHtml]
      split <;> simp [anchorTo, Html.plain, Html.apartAll, Html.apart, words_apart]

section Nesting
variable (s : Setting) (textOf : Text → Text)

/-- The code span is a link, as its text is the name of a module with a page. -/
def namesPage (content : List Inline) : Bool :=
  ModuleName.isQualified (contentText textOf content) &&
    (s.hrefOf? (contentText textOf content)).isSome

def leads : Target → Bool
  | .url _ => true
  | .page name part =>
    if name = [] ∨ name = s.ownName then part.isSome else (s.hrefOf? name).isSome

mutual
/-- Inside a code span the node shows a link. -/
def showsLink : Inline → Bool
  | text _ => false
  | character _ => false
  | entity _ => false
  | link raw => leads s (Link.ofText raw).target
  | styled .code content => namesPage s textOf content || showsLinks content
  | styled .bold content => showsLinks content
  | styled .italic content => showsLinks content
  | styled .file content => showsLinks content
  | styled .unbroken content => showsLinks content
def showsLinks : List Inline → Bool
  | [] => false
  | node :: rest => showsLink node || showsLinks rest
end

mutual
/-- Somewhere in the node a code span that is a link shows a link inside. -/
def nestsLink : Inline → Bool
  | text _ => false
  | character _ => false
  | entity _ => false
  | link _ => false
  | styled .code content =>
    if namesPage s textOf content then showsLinks s textOf content else nestsLinks content
  | styled .bold content => nestsLinks content
  | styled .italic content => nestsLinks content
  | styled .file content => nestsLinks content
  | styled .unbroken content => nestsLinks content
def nestsLinks : List Inline → Bool
  | [] => false
  | node :: rest => nestsLink node || nestsLinks rest
end

variable {s textOf} {link : Mode → Text → List Html}

theorem apart_plain (inside : Bool) {tag : Tag} (other : tag ≠ .anchor)
    (attributes : List Attribute) (content : List Html) :
    Html.apartAll inside [.element tag attributes content] = Html.apartAll inside content := by
  simp [Html.apartAll, Html.apart, other]

theorem apart_anchorTo (inside : Bool) (href : Text) (content : List Html) :
    Html.apartAll inside [anchorTo href content] = (!inside && Html.apartAll true content) := by
  simp [Html.apartAll, Html.apart, anchorTo]

theorem code_apart (inside : Bool) (mode : Mode) (content : List Inline) :
    Html.apartAll inside (nodeHtml s link textOf mode (styled .code content)) =
      if !mode.inLink && namesPage s textOf content then
        !inside &&
          Html.apartAll true (nodesHtml s link textOf { mode with inCode := true } content)
      else Html.apartAll inside (nodesHtml s link textOf { mode with inCode := true } content) := by
  have shown : ∀ inside, Html.apartAll inside
      [.plain .code (nodesHtml s link textOf { mode with inCode := true } content)] =
        Html.apartAll inside (nodesHtml s link textOf { mode with inCode := true } content) :=
    fun inside => apart_plain inside (by decide) [] _
  rw [nodeHtml]
  unfold namesPage
  cases href : s.hrefOf? (contentText textOf content) with
  | none =>
    simp only [Option.isSome_none, Bool.and_false, Bool.false_eq_true, ↓reduceIte, ite_self, shown]
  | some href =>
    simp only [Option.isSome_some, Bool.and_true]
    split
    · rw [apart_anchorTo, shown]
    · exact shown inside

mutual
theorem nodeHtml_inLink
    (links : ∀ mode raw, mode.inLink = true → Html.apartAll true (link mode raw) = true) :
    (node : Inline) → (mode : Mode) → mode.inLink = true →
      Html.apartAll true (nodeHtml s link textOf mode node) = true
  | text t, mode, inLink => by
    rw [nodeHtml, inLink, Bool.or_true, if_pos rfl]
    exact words_apart true mode t
  | character t, mode, _ => by
    rw [nodeHtml]
    exact words_apart true mode t
  | entity name, mode, _ => rfl
  | .link raw, mode, inLink => by
    rw [nodeHtml]
    exact links mode raw inLink
  | styled .code content, mode, inLink => by
    rw [code_apart, if_neg (by simp [inLink])]
    exact nodesHtml_inLink links content _ inLink
  | styled .bold content, mode, inLink => by
    rw [nodeHtml, Html.plain, apart_plain true (by decide)]
    exact nodesHtml_inLink links content mode inLink
  | styled .italic content, mode, inLink => by
    rw [nodeHtml, Html.plain, apart_plain true (by decide)]
    exact nodesHtml_inLink links content mode inLink
  | styled .file content, mode, inLink => by
    rw [nodeHtml, apart_plain true (by decide)]
    exact nodesHtml_inLink links content mode inLink
  | styled .unbroken content, mode, inLink => by
    rw [nodeHtml]
    exact nodesHtml_inLink links content _ inLink
theorem nodesHtml_inLink
    (links : ∀ mode raw, mode.inLink = true → Html.apartAll true (link mode raw) = true) :
    (nodes : List Inline) → (mode : Mode) → mode.inLink = true →
      Html.apartAll true (nodesHtml s link textOf mode nodes) = true
  | [], mode, _ => by rw [nodesHtml, Html.apartAll]
  | node :: rest, mode, inLink => by
    rw [nodesHtml, Html.apartAll_append, nodeHtml_inLink links node mode inLink,
      nodesHtml_inLink links rest mode inLink, Bool.and_true]
end

mutual
theorem nodeHtml_inCode
    (links : ∀ mode raw, mode.inLink = false →
      Html.apartAll true (link mode raw) = !leads s (Link.ofText raw).target) :
    (node : Inline) → (mode : Mode) → mode.inLink = false → mode.inCode = true →
      Html.apartAll true (nodeHtml s link textOf mode node) = !showsLink s textOf node
  | text t, mode, _, inCode => by
    rw [nodeHtml, inCode, Bool.true_or, if_pos rfl, showsLink]
    exact words_apart true mode t
  | character t, mode, _, _ => by
    rw [nodeHtml, showsLink]
    exact words_apart true mode t
  | entity name, mode, _, _ => by rw [nodeHtml, showsLink]; rfl
  | .link raw, mode, outside, _ => by
    rw [nodeHtml, showsLink]
    exact links mode raw outside
  | styled .code content, mode, outside, inCode => by
    have inner := nodesHtml_inCode links content { mode with inCode := true } outside rfl
    rw [code_apart, showsLink, inner, outside]
    cases namesPage s textOf content <;> simp
  | styled .bold content, mode, outside, inCode => by
    rw [nodeHtml, Html.plain, apart_plain true (by decide), showsLink]
    exact nodesHtml_inCode links content mode outside inCode
  | styled .italic content, mode, outside, inCode => by
    rw [nodeHtml, Html.plain, apart_plain true (by decide), showsLink]
    exact nodesHtml_inCode links content mode outside inCode
  | styled .file content, mode, outside, inCode => by
    rw [nodeHtml, apart_plain true (by decide), showsLink]
    exact nodesHtml_inCode links content mode outside inCode
  | styled .unbroken content, mode, outside, inCode => by
    rw [nodeHtml, showsLink]
    exact nodesHtml_inCode links content _ outside inCode
theorem nodesHtml_inCode
    (links : ∀ mode raw, mode.inLink = false →
      Html.apartAll true (link mode raw) = !leads s (Link.ofText raw).target) :
    (nodes : List Inline) → (mode : Mode) → mode.inLink = false → mode.inCode = true →
      Html.apartAll true (nodesHtml s link textOf mode nodes) = !showsLinks s textOf nodes
  | [], mode, _, _ => by rw [nodesHtml, showsLinks]; rfl
  | node :: rest, mode, outside, inCode => by
    rw [nodesHtml, Html.apartAll_append, nodeHtml_inCode links node mode outside inCode,
      nodesHtml_inCode links rest mode outside inCode, showsLinks, Bool.not_or]
end

mutual
/-- Outside of links, links nest where a code span is a link and shows one. -/
theorem nodeHtml_outside
    (links : ∀ mode raw, mode.inLink = false →
      Html.apartAll true (link mode raw) = !leads s (Link.ofText raw).target)
    (single : ∀ mode raw, Html.apartAll false (link mode raw) = true) :
    (node : Inline) → (mode : Mode) → mode.inLink = false →
      Html.apartAll false (nodeHtml s link textOf mode node) = !nestsLink s textOf node
  | text t, mode, _ => by
    rw [nodeHtml, nestsLink]
    split
    · exact words_apart false mode t
    · exact running_apart s mode t
  | character t, mode, _ => by
    rw [nodeHtml, nestsLink]
    exact words_apart false mode t
  | entity name, mode, _ => by rw [nodeHtml, nestsLink]; rfl
  | .link raw, mode, _ => by
    rw [nodeHtml, nestsLink]
    exact single mode raw
  | styled .code content, mode, outside => by
    have within : Html.apartAll true
        (nodesHtml s link textOf { mode with inCode := true } content) =
          !showsLinks s textOf content := nodesHtml_inCode links content _ outside rfl
    have beside := nodesHtml_outside links single content { mode with inCode := true } outside
    rw [code_apart, nestsLink, within, beside, outside]
    cases namesPage s textOf content <;> simp
  | styled .bold content, mode, outside => by
    rw [nodeHtml, Html.plain, apart_plain false (by decide), nestsLink]
    exact nodesHtml_outside links single content mode outside
  | styled .italic content, mode, outside => by
    rw [nodeHtml, Html.plain, apart_plain false (by decide), nestsLink]
    exact nodesHtml_outside links single content mode outside
  | styled .file content, mode, outside => by
    rw [nodeHtml, apart_plain false (by decide), nestsLink]
    exact nodesHtml_outside links single content mode outside
  | styled .unbroken content, mode, outside => by
    rw [nodeHtml, nestsLink]
    exact nodesHtml_outside links single content _ outside
theorem nodesHtml_outside
    (links : ∀ mode raw, mode.inLink = false →
      Html.apartAll true (link mode raw) = !leads s (Link.ofText raw).target)
    (single : ∀ mode raw, Html.apartAll false (link mode raw) = true) :
    (nodes : List Inline) → (mode : Mode) → mode.inLink = false →
      Html.apartAll false (nodesHtml s link textOf mode nodes) = !nestsLinks s textOf nodes
  | [], mode, _ => by rw [nodesHtml, nestsLinks]; rfl
  | node :: rest, mode, outside => by
    rw [nodesHtml, Html.apartAll_append, nodeHtml_outside links single node mode outside,
      nodesHtml_outside links single rest mode outside, nestsLinks, Bool.not_or]
end

end Nesting

section Links
variable (s : Setting)

theorem targetHref?_isSome (plain : Text → Text) (target : Target) :
    (targetHref? s plain target).isSome = leads s target := by
  cases target with
  | url address => rfl
  | page name part =>
    rw [targetHref?, leads]
    split <;> simp

theorem linkHtml_inLink (depth : Nat) (mode : Mode) (raw : Text) (inLink : mode.inLink = true) :
    Html.apartAll true (linkHtml s depth mode raw) = true := by
  induction depth generalizing mode raw with
  | zero => exact words_apart true mode raw
  | succ depth ih =>
    rw [linkHtml_succ, if_pos inLink, labelHtml]
    split
    · exact nodesHtml_inLink ih _ _ rfl
    · exact words_apart true _ _

theorem labelHtml_apart (depth : Nat) (mode : Mode) (l : Link) :
    Html.apartAll true (labelHtml s depth mode l) = true := by
  unfold labelHtml
  split
  · exact nodesHtml_inLink (linkHtml_inLink s depth) _ _ rfl
  · exact words_apart true _ _

theorem linkHtml_leads (depth : Nat) (mode : Mode) (raw : Text) (outside : mode.inLink = false) :
    Html.apartAll true (linkHtml s (depth + 1) mode raw) = !leads s (Link.ofText raw).target := by
  have label := labelHtml_apart s depth mode (Link.ofText raw)
  rw [linkHtml_succ, if_neg (by simp [outside]), ← targetHref?_isSome s (unmarkedWithin depth)]
  cases targetHref? s (unmarkedWithin depth) (Link.ofText raw).target with
  | some href => rw [apart_anchorTo]; rfl
  | none =>
    simp only
    split
    · exact label
    · rw [Html.plain, apart_plain true (by decide)]
      exact label

theorem linkHtml_single (depth : Nat) (mode : Mode) (raw : Text) :
    Html.apartAll false (linkHtml s depth mode raw) = true := by
  cases depth with
  | zero => exact words_apart false mode raw
  | succ depth =>
    have label := labelHtml_apart s depth mode (Link.ofText raw)
    have outer := Html.apartAll_outside label
    rw [linkHtml_succ]
    split
    · exact outer
    · split
      · rw [apart_anchorTo, label]
        rfl
      · split
        · exact outer
        · rw [Html.plain, apart_plain false (by decide)]
          exact outer

/-- On a page a text opens no anchor while another is open, unless a code span that names a known
module holds a link with a known target, or another such code span. -/
theorem render_unnested_iff (t : Text) :
    Html.hasNoNestedAnchor (render s t) = true ↔
      nestsLinks s (linkText t.length) (parse t) = false := by
  rw [render, Html.hasNoNestedAnchor_write (html_clean s t), html]
  cases t with
  | nil =>
    simp [parse, Reader.run, Reader.initial, Reader.finish, Reader.closeAll, flush, nodesHtml,
      nestsLinks, Html.apartAll]
  | cons c t =>
    have leads := linkHtml_leads s t.length
    rw [List.length_cons, nodesHtml_outside leads (linkHtml_single s _) _ _ rfl, Bool.not_eq_true']

theorem render_nests_link :
    Html.hasNoNestedAnchor
      (render
        ⟨⟨[("Acme::Beta".toList,
            Path.absolute ["out".toList, "Acme".toList, "Beta.pm.html".toList])]⟩,
          Path.absolute ["out".toList, "Acme".toList, "Alpha.pm.html".toList], "Acme::Alpha".toList⟩
        "C<L<Acme::Beta>>".toList) = false := by
  decide +kernel

end Links
end PodSite.Inline
