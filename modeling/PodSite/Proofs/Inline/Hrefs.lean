import PodSite.Proofs.Html.Hrefs
import PodSite.Proofs.Html.Visible
import PodSite.Proofs.Inline.Links

/-!
Where the links of inline markup lead. Links come from names in running text, from code spans and
from link codes, and a label shows none. So each of them leads to the address of a link code, to a
part of the page itself, or to the page of another module that is known.
-/
namespace PodSite.Inline

open Html (HrefsAll hrefsAll_nil hrefsAll_append hrefsAll_single hrefsAll_of_eq_nil)

theorem hrefsOf_anchorTo (href : Text) (content : List Html) :
    Html.hrefsOf (anchorTo href content) = Html.escape href :: Html.hrefsOfAll content := by
  simp [anchorTo, Html.hrefsOf]

theorem hrefsAll_anchorTo {may : Text → Prop} {href : Text} {content : List Html}
    (leads : may (Html.escape href)) (inner : HrefsAll may content) :
    HrefsAll may [anchorTo href content] := by
  intro value member
  rw [Html.hrefsOfAll_cons, hrefsOf_anchorTo, Html.hrefsOfAll_nil, List.append_nil,
    List.mem_cons] at member
  rcases member with rfl | deeper
  · exact leads
  · exact inner value deeper

theorem words_hrefs (mode : Mode) (t : Text) : Html.hrefsOfAll (words mode t) = [] := by
  unfold words
  split
  · induction t with
    | nil => simp
    | cons c t ih =>
      rw [List.map_cons, Html.hrefsOfAll_cons, ih, List.append_nil]
      split <;> simp
  · simp

theorem hrefsOfAll_apart {nodes : List Html}
    (each : ∀ node ∈ nodes, Html.apart true node = true → Html.hrefsOf node = [])
    (apart : Html.apartAll true nodes = true) : Html.hrefsOfAll nodes = [] := by
  induction nodes with
  | nil => simp
  | cons node rest ih =>
    rw [Html.apartAll, Bool.and_eq_true] at apart
    obtain ⟨here, later⟩ := List.forall_mem_cons.mp each
    rw [Html.hrefsOfAll_cons, here apart.1, ih later apart.2, List.append_nil]

theorem written_linkless {node : Html} (written : Written node)
    (apart : Html.apart true node = true) : Html.hrefsOf node = [] := by
  induction written with
  | text t => simp
  | space => simp
  | entity named => simp
  | anchor href _ ih => simp [anchorTo, Html.apart] at apart
  | @styled tag known content _ ih =>
    have other : tag ≠ .anchor := by
      rintro rfl
      simp at known
    have inner : Html.apartAll true content = true := by
      simpa [Html.plain, Html.apart, other] using apart
    rw [Html.hrefsOf_plain, hrefsOfAll_apart ih inner]
  | @file content _ ih =>
    have inner : Html.apartAll true content = true := by
      simpa [Html.apart] using apart
    simpa [Html.hrefsOf] using hrefsOfAll_apart ih inner

section Trees
variable {s : Setting} {may : Text → Prop}

theorem running_hrefs (names : ∀ name href, s.hrefOf? name = some href → may (Html.escape href))
    (mode : Mode) (t : Text) : HrefsAll may (running s mode t) := by
  unfold running
  induction ModuleName.pieces none 0 t with
  | nil => exact hrefsAll_nil
  | cons piece rest ih =>
    rw [List.flatMap_cons]
    apply hrefsAll_append _ ih
    cases piece with
    | plain t => exact hrefsAll_of_eq_nil (words_hrefs mode t)
    | name n =>
      have shown : HrefsAll may (words mode n) := hrefsAll_of_eq_nil (words_hrefs mode n)
      rw [pieceHtml]
      split
      · rename_i known
        exact hrefsAll_anchorTo (names n _ known) shown
      · exact hrefsAll_single (Html.hrefsOf_plain .code _) shown

variable {link : Mode → Text → List Html} {textOf : Text → Text}

mutual
theorem nodeHtml_hrefs (names : ∀ name href, s.hrefOf? name = some href → may (Html.escape href)) :
    (node : Inline) → (∀ raw, .link raw ∈ leaves node → ∀ mode, HrefsAll may (link mode raw)) →
      (mode : Mode) → HrefsAll may (nodeHtml s link textOf mode node)
  | text t, _, mode => by
    rw [nodeHtml]
    split
    · exact hrefsAll_of_eq_nil (words_hrefs mode t)
    · exact running_hrefs names mode t
  | character t, _, mode => by
    rw [nodeHtml]
    exact hrefsAll_of_eq_nil (words_hrefs mode t)
  | entity name, _, mode => by
    rw [nodeHtml]
    exact hrefsAll_of_eq_nil (by simp)
  | .link raw, links, mode => by
    rw [nodeHtml]
    exact links raw (by simp [leaves]) mode
  | styled style content, links, mode => by
    rw [leaves] at links
    have inner := nodesHtml_hrefs names content links
    cases style with
    | bold =>
      rw [nodeHtml]
      exact hrefsAll_single (Html.hrefsOf_plain .strong _) (inner mode)
    | italic =>
      rw [nodeHtml]
      exact hrefsAll_single (Html.hrefsOf_plain .emphasis _) (inner mode)
    | file =>
      rw [nodeHtml]
      exact hrefsAll_single (by simp [Html.hrefsOf]) (inner mode)
    | unbroken =>
      rw [nodeHtml]
      exact inner _
    | code =>
      have shown := hrefsAll_single (Html.hrefsOf_plain .code _)
        (inner { mode with inCode := true })
      rw [nodeHtml]
      split
      · split
        · rename_i known
          exact hrefsAll_anchorTo (names _ _ known) shown
        · exact shown
      · exact shown
theorem nodesHtml_hrefs
    (names : ∀ name href, s.hrefOf? name = some href → may (Html.escape href)) :
    (nodes : List Inline) →
      (∀ raw, .link raw ∈ leavesAll nodes → ∀ mode, HrefsAll may (link mode raw)) →
      (mode : Mode) → HrefsAll may (nodesHtml s link textOf mode nodes)
  | [], _, mode => by
    rw [nodesHtml]
    exact hrefsAll_nil
  | node :: rest, links, mode => by
    simp only [leavesAll, List.mem_append] at links
    rw [nodesHtml]
    apply hrefsAll_append
    · exact nodeHtml_hrefs names node (fun raw here => links raw (Or.inl here)) mode
    · exact nodesHtml_hrefs names rest (fun raw there => links raw (Or.inr there)) mode
end

end Trees

section Links
variable (s : Setting)

theorem labelHtml_written (depth : Nat) (mode : Mode) (l : Link) :
    WrittenAll (labelHtml s depth mode l) := by
  unfold labelHtml
  split
  · exact nodesHtml_written s (linkHtml_written s depth) _ (fun _ => entity_of_parse) _
  · exact words_written _ _

theorem labelHtml_hrefs (depth : Nat) (mode : Mode) (l : Link) :
    Html.hrefsOfAll (labelHtml s depth mode l) = [] := by
  apply hrefsOfAll_apart _ (labelHtml_apart s depth mode l)
  intro node member
  exact written_linkless (labelHtml_written s depth mode l node member)

variable {s} {may : Text → Prop}

theorem linkHtml_hrefs {raw : Text}
    (leads : ∀ plain href, targetHref? s plain (Link.ofText raw).target = some href →
      may (Html.escape href)) (depth : Nat) (mode : Mode) :
    HrefsAll may (linkHtml s depth mode raw) := by
  cases depth with
  | zero => exact hrefsAll_of_eq_nil (words_hrefs mode raw)
  | succ depth =>
    have label : HrefsAll may (labelHtml s depth mode (Link.ofText raw)) :=
      hrefsAll_of_eq_nil (labelHtml_hrefs s depth mode _)
    rw [linkHtml_succ]
    split
    · exact label
    · split
      · rename_i found
        exact hrefsAll_anchorTo (leads _ _ found) label
      · split
        · exact label
        · exact hrefsAll_single (Html.hrefsOf_plain .code _) label

theorem html_hrefs {t : Text}
    (names : ∀ name href, s.hrefOf? name = some href → may (Html.escape href))
    (leads : ∀ raw, .link raw ∈ leavesAll (parse t) → ∀ plain href,
      targetHref? s plain (Link.ofText raw).target = some href → may (Html.escape href)) :
    HrefsAll may (html s t) := by
  apply nodesHtml_hrefs names
  intro raw member mode
  exact linkHtml_hrefs (leads raw member) t.length mode

end Links

section Written

theorem hrefsIn_each {nodes : List Html}
    (each : ∀ node ∈ nodes, ∀ rest, Html.hrefsIn (node :: rest) =
      Html.hrefsOf node ++ Html.hrefsIn rest) : Html.hrefsIn nodes = Html.hrefsOfAll nodes := by
  induction nodes with
  | nil => rw [Html.hrefsIn_nil, Html.hrefsOfAll_nil]
  | cons node rest ih =>
    obtain ⟨here, later⟩ := List.forall_mem_cons.mp each
    rw [here, ih later, Html.hrefsOfAll_cons]

theorem written_hrefs {node : Html} (written : Written node) :
    ∀ rest, Html.hrefsIn (node :: rest) = Html.hrefsOf node ++ Html.hrefsIn rest := by
  induction written with
  | text t =>
    intro rest
    rw [Html.hrefsIn_text, Html.hrefsOf_text, List.nil_append]
  | space =>
    intro rest
    rw [Html.hrefsIn_reference, Html.hrefsOf_reference, List.nil_append]
  | entity named =>
    intro rest
    rw [Html.hrefsIn_reference, Html.hrefsOf_reference, List.nil_append]
  | anchor href _ ih =>
    intro rest
    rw [hrefsOf_anchorTo, anchorTo, Html.hrefsIn_element,
      Html.href?_anchor (Html.escape_unquoted href), hrefsIn_each ih]
    rfl
  | @styled tag known content _ ih =>
    intro rest
    have other : ∀ tag ∈ [Tag.strong, .emphasis, .code],
        'f' ∉ tag.name ++ Html.writeAttributes [] := by decide
    rw [Html.hrefsOf_plain, Html.plain, Html.hrefsIn_other (other tag known), hrefsIn_each ih]
  | @file content _ ih =>
    intro rest
    have none : Html.href? (Tag.emphasis.name ++
        Html.writeAttributes [⟨"class".toList, "file".toList⟩]) = none := by decide
    rw [Html.hrefsIn_element, none, hrefsIn_each ih]
    simp [Html.hrefsOf]

theorem hrefs_render (s : Setting) (t : Text) :
    Html.hrefs (render s t) = Html.hrefsOfAll (html s t) := by
  rw [render, Html.hrefs_write (html_clean s t)]
  apply hrefsIn_each
  intro node member
  exact written_hrefs (html_written s t node member)

end Written

/-- The address of a link code in the text, or a part of the page that the text stands on. -/
def OwnTarget (t href : Text) : Prop :=
  (∃ raw, .link raw ∈ leavesAll (parse t) ∧ (Link.ofText raw).target = .url href) ∨
    ∃ u, href = '#' :: Slug.ofText u

/-- The page of another module that is known, or a part of that page. -/
def Setting.PageTarget (s : Setting) (href : Text) : Prop :=
  ∃ name page, name ≠ s.ownName ∧ s.references.resolve? name = some page ∧
    (href = Href.relative s.here page ∨
      ∃ u, href = Href.relative s.here page ++ '#' :: Slug.ofText u)

theorem hrefOf?_eq_some {s : Setting} {name href : Text} (known : s.hrefOf? name = some href) :
    name ≠ s.ownName ∧
      ∃ page, s.references.resolve? name = some page ∧ href = Href.relative s.here page := by
  unfold Setting.hrefOf? at known
  split at known
  · cases known
  · rename_i other
    obtain ⟨page, resolved, rfl⟩ := Option.map_eq_some_iff.mp known
    exact ⟨other, page, resolved, rfl⟩

theorem targetHref?_known {s : Setting} {t raw : Text} {plain : Text → Text} {href : Text}
    (member : .link raw ∈ leavesAll (parse t))
    (leads : targetHref? s plain (Link.ofText raw).target = some href) :
    OwnTarget t href ∨ s.PageTarget href := by
  cases target : (Link.ofText raw).target with
  | url address =>
    rw [target] at leads
    cases leads
    exact Or.inl (Or.inl ⟨raw, member, target⟩)
  | page name part =>
    rw [target] at leads
    simp only [targetHref?] at leads
    split at leads
    · obtain ⟨p, _, rfl⟩ := Option.map_eq_some_iff.mp leads
      exact Or.inl (Or.inr ⟨plain p, rfl⟩)
    · obtain ⟨start, known, rfl⟩ := Option.map_eq_some_iff.mp leads
      obtain ⟨other, page, resolved, rfl⟩ := hrefOf?_eq_some known
      refine Or.inr ⟨name, page, other, resolved, ?_⟩
      cases part with
      | none => exact Or.inl (List.append_nil _)
      | some p => exact Or.inr ⟨plain p, rfl⟩

theorem Setting.PageTarget.entries_ne_nil {s : Setting} {href : Text} (leads : s.PageTarget href) :
    s.references.entries ≠ [] := by
  obtain ⟨name, page, _, resolved, _⟩ := leads
  intro empty
  rw [References.resolve?, empty] at resolved
  cases resolved

/-- Every link of a written text leads to the address of one of its link codes, to a part of the
page, or to the page of another module in the references; so without references none leaves the page
but for an address. -/
theorem hrefs_render_known (s : Setting) (t : Text) :
    (∀ value ∈ Html.hrefs (render s t),
      OwnTarget t (Html.decode value) ∨ s.PageTarget (Html.decode value)) ∧
    (s.references.entries = [] →
      ∀ value ∈ Html.hrefs (render s t), OwnTarget t (Html.decode value)) := by
  have decoded : ∀ href : Text, Html.decode (Html.escape href) = href := by
    intro href
    have read := Html.decode_escape href []
    rwa [List.append_nil, Html.decode, List.append_nil] at read
  have all : ∀ value ∈ Html.hrefs (render s t),
      OwnTarget t (Html.decode value) ∨ s.PageTarget (Html.decode value) := by
    rw [hrefs_render]
    apply html_hrefs
    · intro name href known
      obtain ⟨other, page, resolved, rfl⟩ := hrefOf?_eq_some known
      rw [decoded]
      exact Or.inr ⟨name, page, other, resolved, Or.inl rfl⟩
    · intro raw member plain href leads
      rw [decoded]
      exact targetHref?_known member leads
  refine ⟨all, ?_⟩
  intro empty value member
  exact (all value member).resolve_right fun leads => leads.entries_ne_nil empty

def knownPage : Setting :=
  ⟨⟨[("A::B".toList, Path.absolute ["o".toList, "A".toList, "B.html".toList])]⟩,
    Path.absolute ["o".toList, "d.html".toList], "A::D".toList⟩

def linkedText : Text := "B<L<a C<b>|x:/?q&r>> L</\"Q\"> L<A::B/new> C<A::B> A::D L<Z>".toList

theorem hrefs_render_known_mixed :
    Html.hrefs (render knownPage linkedText) =
        ["x:/?q&amp;r".toList, "#q".toList, "A/B.html#new".toList, "A/B.html".toList] ∧
      (OwnTarget linkedText (Html.decode "A/B.html#new".toList) ∨
        knownPage.PageTarget (Html.decode "A/B.html#new".toList)) ∧
      Html.hrefs (render { knownPage with references := ⟨[]⟩ } linkedText) =
        ["x:/?q&amp;r".toList, "#q".toList] ∧
      OwnTarget linkedText (Html.decode "x:/?q&amp;r".toList) := by
  have links : Html.hrefs (render knownPage linkedText) =
      ["x:/?q&amp;r".toList, "#q".toList, "A/B.html#new".toList, "A/B.html".toList] := by
    decide +kernel
  have alone : Html.hrefs (render { knownPage with references := ⟨[]⟩ } linkedText) =
      ["x:/?q&amp;r".toList, "#q".toList] := by
    decide +kernel
  refine ⟨links, (hrefs_render_known _ _).1 _ ?_, alone, ?_⟩
  · rw [links]
    decide
  · apply (hrefs_render_known { knownPage with references := ⟨[]⟩ } linkedText).2 rfl
    rw [alone]
    exact List.mem_cons_self

end PodSite.Inline
