import PodSite.Inline.Render
import PodSite.Proofs.Inline.Depth
import PodSite.Proofs.Inline.Positions

/-!
Reading again what stands in links. A link keeps its content as text, and its label and the part of
a page that it leads to are read only when the link is shown. Each of these texts is shorter than
the text that the link was read from, so reading again comes to an end, and the rules by which links
are shown determine what is shown, with no bound on how deep links stand in each other.
-/
namespace PodSite.Inline

def isLink (raw : Text) : Inline → Bool
  | link other => other == raw
  | _ => false

instance (raw : Text) (nodes : List Inline) : Decidable (link raw ∈ nodes) :=
  decidable_of_iff (nodes.any (isLink raw) = true) (by
    rw [List.any_eq_true]
    constructor
    · rintro ⟨node, member, same⟩
      cases node <;> simp_all [isLink]
    · intro member
      exact ⟨_, member, by simp [isLink]⟩)

/-- Showing the text `t` reads the text `u` again. -/
def Rereads (t u : Text) : Prop := ∃ raw, link raw ∈ leavesAll (parse t) ∧ Link.Holds raw u

theorem length_of_rereads {t u : Text} (again : Rereads t u) : u.length + 2 ≤ t.length := by
  obtain ⟨raw, read, held⟩ := again
  have shorter := length_of_link read
  have part := Link.length_of_holds held
  omega

theorem rereads_wellFounded : WellFounded fun u t => Rereads t u := by
  refine Subrelation.wf ?_ (measure List.length).wf
  intro u t again
  have shorter := length_of_rereads again
  exact (by omega : u.length < t.length)

/-- How links are shown: their text, and their content on a page. -/
@[ext]
structure Views where
  text : Text → Text
  html : Mode → Text → List Html

def Views.within (s : Setting) (depth : Nat) : Views := ⟨linkText depth, linkHtml s depth⟩

namespace Views

def plain (views : Views) (t : Text) : Text := contentText views.text (parse t)

def label (s : Setting) (views : Views) (mode : Mode) (l : Link) : List Html :=
  match l.label with
  | some t => nodesHtml s views.html views.text { mode with inLink := true } (parse t)
  | none => words { mode with inLink := true } (l.shown views.plain)

def next (s : Setting) (views : Views) : Views where
  text raw := (Link.ofText raw).shown views.plain
  html mode raw :=
    if mode.inLink then views.label s mode (Link.ofText raw)
    else
      match targetHref? s views.plain (Link.ofText raw).target with
      | some href => [anchorTo href (views.label s mode (Link.ofText raw))]
      | none =>
        if (Link.ofText raw).label.isSome then views.label s mode (Link.ofText raw)
        else [.plain .code (views.label s mode (Link.ofText raw))]

theorem within_succ (s : Setting) (depth : Nat) : within s (depth + 1) = (within s depth).next s :=
  rfl

/-- The link is shown in the same way. -/
structure Agree (v w : Views) (raw : Text) : Prop where
  text : v.text raw = w.text raw
  html : ∀ mode, v.html mode raw = w.html mode raw

def AgreeIn (v w : Views) (t : Text) : Prop := ∀ raw, link raw ∈ leavesAll (parse t) → v.Agree w raw

end Views

section Congruence
variable {s : Setting} {v w : Views}

mutual
theorem nodeHtml_congr : (node : Inline) → (∀ raw, link raw ∈ leaves node → v.Agree w raw) →
    (mode : Mode) → nodeHtml s v.html v.text mode node = nodeHtml s w.html w.text mode node
  | text t, _, mode => by rw [nodeHtml, nodeHtml]
  | character t, _, mode => by rw [nodeHtml, nodeHtml]
  | entity name, _, mode => by rw [nodeHtml, nodeHtml]
  | link raw, same, mode => by
    rw [nodeHtml, nodeHtml]
    exact (same raw (by simp [leaves])).html mode
  | styled style content, same, mode => by
    rw [leaves] at same
    have inner := nodesHtml_congr content same
    have texts : contentText v.text content = contentText w.text content :=
      contentText_congr content fun raw member => (same raw member).text
    cases style <;> simp only [nodeHtml, inner, texts]
theorem nodesHtml_congr : (nodes : List Inline) →
    (∀ raw, link raw ∈ leavesAll nodes → v.Agree w raw) → (mode : Mode) →
      nodesHtml s v.html v.text mode nodes = nodesHtml s w.html w.text mode nodes
  | [], _, mode => by rw [nodesHtml, nodesHtml]
  | node :: rest, same, mode => by
    simp only [leavesAll, List.mem_append] at same
    rw [nodesHtml, nodesHtml, nodeHtml_congr node (fun raw here => same raw (Or.inl here)) mode,
      nodesHtml_congr rest (fun raw there => same raw (Or.inr there)) mode]
end

end Congruence

namespace Views
variable {s : Setting} {v w : Views} {raw : Text}

/-- What the rules give for a link depends only on the links of the texts that it holds. -/
theorem next_congr (same : ∀ u, Link.Holds raw u → v.AgreeIn w u) :
    (v.next s).Agree (w.next s) raw := by
  have plain : ∀ u, Link.Holds raw u → v.plain u = w.plain u :=
    fun u held => contentText_congr (parse u) fun inner read => (same u held inner read).text
  have shown := Link.shown_congr plain
  have label : ∀ mode, v.label s mode (Link.ofText raw) = w.label s mode (Link.ofText raw) := by
    intro mode
    unfold Views.label
    split
    · rename_i t labelled
      exact nodesHtml_congr (parse t) (same t (.inl labelled)) _
    · rw [shown]
  have href : targetHref? s v.plain (Link.ofText raw).target =
      targetHref? s w.plain (Link.ofText raw).target := by
    cases target : (Link.ofText raw).target with
    | url address => rfl
    | page name part =>
      cases part with
      | none => rfl
      | some part => simp only [targetHref?, Option.map_some, plain part (.inr ⟨name, target⟩)]
  constructor
  · exact shown
  · intro mode
    simp only [next, label, href]

theorem next_agreeIn {t : Text} (same : ∀ u, Rereads t u → v.AgreeIn w u) :
    (v.next s).AgreeIn (w.next s) t :=
  fun raw read => next_congr fun u held => same u ⟨raw, read, held⟩

/-- Views that follow the rules step by step show a link in the same way, from a number of steps on
that is greater than its length. -/
theorem agree_of_steps {f g : Nat → Views} (first : ∀ n, f (n + 1) = (f n).next s)
    (second : ∀ n, g (n + 1) = (g n).next s) {n m : Nat} (enough : raw.length < n)
    (enough' : raw.length < m) : (f n).Agree (g m) raw := by
  induction n generalizing m raw with
  | zero => omega
  | succ n ih =>
    obtain ⟨k, rfl⟩ : ∃ k, m = k + 1 := ⟨m - 1, by omega⟩
    rw [first, second]
    apply next_congr
    intro u held inner read
    have inside := Link.length_of_holds held
    have shorter := length_of_link read
    exact ih (by omega) (by omega)

theorem eq_of_agree (same : ∀ raw, v.Agree w raw) : v = w := by
  apply Views.ext
  · exact funext fun raw => (same raw).text
  · exact funext fun mode => funext fun raw => (same raw).html mode

def full (s : Setting) : Views where
  text raw := linkText (raw.length + 1) raw
  html mode raw := linkHtml s (raw.length + 1) mode raw

theorem within_agree {depth : Nat} (enough : raw.length < depth) :
    (within s depth).Agree (full s) raw := by
  have same := agree_of_steps (within_succ s) (within_succ s) enough (Nat.lt_succ_self raw.length)
  exact ⟨same.text, same.html⟩

theorem within_agreeIn {t : Text} {depth : Nat} (enough : t.length ≤ depth) :
    (within s depth).AgreeIn (full s) t := by
  intro raw read
  have shorter := length_of_link read
  exact within_agree (by omega)

theorem next_full (s : Setting) : (full s).next s = full s := by
  apply eq_of_agree
  intro raw
  have rule : ((within s raw.length).next s).Agree ((full s).next s) raw :=
    next_congr fun u held => within_agreeIn (Link.length_of_holds held)
  exact ⟨rule.text.symm, fun mode => (rule.html mode).symm⟩

theorem eq_full (fixed : v.next s = v) : v = full s := by
  apply eq_of_agree
  intro raw
  have same := agree_of_steps (f := fun _ => v) (fun _ => fixed.symm) (within_succ s)
    (Nat.lt_succ_self raw.length) (Nat.lt_succ_self raw.length)
  exact ⟨same.text, same.html⟩

theorem unmarked_eq (s : Setting) (t : Text) : unmarked t = (full s).plain t :=
  contentText_congr (parse t) fun raw read =>
    (within_agreeIn (s := s) (Nat.le_refl t.length) raw read).text

theorem html_eq (s : Setting) (t : Text) :
    Inline.html s t = nodesHtml s (full s).html (full s).text .outside (parse t) :=
  nodesHtml_congr (parse t) (within_agreeIn (Nat.le_refl t.length)) .outside

end Views

/-- Reading asks only for parts that the text has. What it leaves in links is shorter than the text
by two characters at least, and so is what is read again for it. So reading again comes to an end,
and there is one way only to show links by rules that have no bound: it gives the text and the page
content. -/
theorem rereading_ends :
    (∀ t, scan? t = some (parse t)) ∧
    (∀ t raw, link raw ∈ leavesAll (parse t) → raw.length + 2 ≤ t.length) ∧
    (∀ t u, Rereads t u → u.length + 2 ≤ t.length) ∧
    (WellFounded fun u t => Rereads t u) ∧
    ∀ s : Setting,
      (∀ (v w : Views) t, (∀ u, Rereads t u → v.AgreeIn w u) →
        (v.next s).AgreeIn (w.next s) t) ∧
      ∃ views : Views, views.next s = views ∧
        (∀ other : Views, other.next s = other → other = views) ∧
        ∀ t, unmarked t = views.plain t ∧
          html s t = nodesHtml s views.html views.text .outside (parse t) := by
  refine ⟨scan?_eq_some, fun _ _ => length_of_link, fun _ _ => length_of_rereads,
    rereads_wellFounded, ?_⟩
  intro s
  refine ⟨fun v w t => Views.next_agreeIn, .full s, Views.next_full s, ?_, ?_⟩
  · intro other fixed
    exact Views.eq_full fixed
  · intro t
    exact ⟨Views.unmarked_eq s t, Views.html_eq s t⟩

theorem rereading_ends_nested :
    let t := "S<< L<a L<b|c>|M/\"B<e>\"> >> L<<< z".toList
    let raw := "a L<b|c>|M/\"B<e>\"".toList
    scan? t = some (parse t) ∧ link raw ∈ leavesAll (parse t) ∧ raw.length + 2 ≤ t.length ∧
      Rereads t "a L<b|c>".toList ∧ "a L<b|c>".toList.length + 2 ≤ t.length ∧
      Rereads t "B<e>".toList ∧ Rereads "a L<b|c>".toList "b".toList := by
  intro t raw
  obtain ⟨scans, shorter, again, _⟩ := rereading_ends
  have read : link raw ∈ leavesAll (parse t) := by decide +kernel
  have label : Rereads t "a L<b|c>".toList := ⟨raw, read, .inl (by decide +kernel)⟩
  have part : Rereads t "B<e>".toList := ⟨raw, read, .inr ⟨"M".toList, by decide +kernel⟩⟩
  have inner : Rereads "a L<b|c>".toList "b".toList :=
    ⟨"b|c".toList, by decide +kernel, .inl (by decide +kernel)⟩
  exact ⟨scans t, read, shorter t raw read, label, again t _ label, part, inner⟩

end PodSite.Inline
