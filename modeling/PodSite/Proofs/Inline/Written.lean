import PodSite.Inline.Render
import PodSite.Proofs.Inline.Leaves

/-!
What inline markup writes: escaped text, references that stand for themselves, and a few elements
around such content. So it writes no angle bracket but those of its own tags.
-/
namespace PodSite.Inline

inductive Written : Html → Prop where
  | text (t : Text) : Written (.text t)
  | space : Written (.reference "nbsp".toList)
  | entity {name : Text} (named : ofCharacterCode name = .entity name) : Written (.reference name)
  | anchor (href : Text) {content : List Html} (inner : ∀ node ∈ content, Written node) :
      Written (anchorTo href content)
  | styled {tag : Tag} (known : tag ∈ [.strong, .emphasis, .code]) {content : List Html}
      (inner : ∀ node ∈ content, Written node) : Written (.plain tag content)
  | file {content : List Html} (inner : ∀ node ∈ content, Written node) :
      Written (.element .emphasis [⟨"class".toList, "file".toList⟩] content)

def WrittenAll (nodes : List Html) : Prop := ∀ node ∈ nodes, Written node

theorem writtenAll_single {node : Html} (written : Written node) : WrittenAll [node] := by
  intro other member
  rw [List.mem_singleton.mp member]
  exact written

theorem writtenAll_append {a b : List Html} (first : WrittenAll a) (later : WrittenAll b) :
    WrittenAll (a ++ b) := by
  intro node member
  rcases List.mem_append.mp member with here | there
  · exact first node here
  · exact later node there

section Trees
variable (s : Setting)

theorem words_written (mode : Mode) (t : Text) : WrittenAll (words mode t) := by
  unfold words
  split
  · intro node member
    obtain ⟨c, _, rfl⟩ := List.mem_map.mp member
    split
    · exact .space
    · exact .text [c]
  · exact writtenAll_single (.text t)

theorem running_written (mode : Mode) (t : Text) : WrittenAll (running s mode t) := by
  intro node member
  obtain ⟨piece, _, member⟩ := List.mem_flatMap.mp member
  cases piece with
  | plain t => exact words_written mode t node member
  | name n =>
    rw [pieceHtml] at member
    split at member
    · exact writtenAll_single (.anchor _ (words_written mode n)) node member
    · exact writtenAll_single (.styled (by simp) (words_written mode n)) node member

variable {link : Mode → Text → List Html} {textOf : Text → Text}

mutual
theorem nodeHtml_written (links : ∀ mode raw, WrittenAll (link mode raw)) :
    (node : Inline) → (∀ name, entity name ∈ leaves node → ofCharacterCode name = entity name) →
      (mode : Mode) → WrittenAll (nodeHtml s link textOf mode node)
  | text t, _, mode => by
    rw [nodeHtml]
    split
    · exact words_written mode t
    · exact running_written s mode t
  | character t, _, mode => by
    rw [nodeHtml]
    exact words_written mode t
  | entity name, named, mode => by
    rw [nodeHtml]
    exact writtenAll_single (.entity (named name (by simp [leaves])))
  | .link raw, _, mode => by
    rw [nodeHtml]
    exact links mode raw
  | styled style content, named, mode => by
    rw [leaves] at named
    have inner := fun mode => nodesHtml_written links content named mode
    cases style with
    | bold =>
      rw [nodeHtml]
      exact writtenAll_single (.styled (by simp) (inner mode))
    | italic =>
      rw [nodeHtml]
      exact writtenAll_single (.styled (by simp) (inner mode))
    | file =>
      rw [nodeHtml]
      exact writtenAll_single (.file (inner mode))
    | unbroken =>
      rw [nodeHtml]
      exact inner _
    | code =>
      rw [nodeHtml]
      have shown : Written (.plain .code _) :=
        .styled (by simp) (inner { mode with inCode := true })
      split
      · split
        · exact writtenAll_single (.anchor _ (writtenAll_single shown))
        · exact writtenAll_single shown
      · exact writtenAll_single shown
theorem nodesHtml_written (links : ∀ mode raw, WrittenAll (link mode raw)) :
    (nodes : List Inline) →
      (∀ name, entity name ∈ leavesAll nodes → ofCharacterCode name = entity name) →
      (mode : Mode) → WrittenAll (nodesHtml s link textOf mode nodes)
  | [], _, mode => by
    rw [nodesHtml]
    simp [WrittenAll]
  | node :: rest, named, mode => by
    simp only [leavesAll, List.mem_append] at named
    rw [nodesHtml]
    refine writtenAll_append ?_ ?_
    · exact nodeHtml_written links node (fun name here => named name (Or.inl here)) mode
    · exact nodesHtml_written links rest (fun name there => named name (Or.inr there)) mode
end

def labelHtml (depth : Nat) (mode : Mode) (l : Link) : List Html :=
  match l.label with
  | some t => nodesHtml s (linkHtml s depth) (linkText depth) { mode with inLink := true } (parse t)
  | none => words { mode with inLink := true } (l.shown (unmarkedWithin depth))

theorem linkHtml_succ (depth : Nat) (mode : Mode) (raw : Text) :
    linkHtml s (depth + 1) mode raw =
      if mode.inLink then labelHtml s depth mode (Link.ofText raw)
      else
        match targetHref? s (unmarkedWithin depth) (Link.ofText raw).target with
        | some href => [anchorTo href (labelHtml s depth mode (Link.ofText raw))]
        | none =>
          if (Link.ofText raw).label.isSome then labelHtml s depth mode (Link.ofText raw)
          else [.plain .code (labelHtml s depth mode (Link.ofText raw))] := rfl

theorem linkHtml_written (depth : Nat) (mode : Mode) (raw : Text) :
    WrittenAll (linkHtml s depth mode raw) := by
  induction depth generalizing mode raw with
  | zero => exact words_written mode raw
  | succ depth ih =>
    have label : WrittenAll (labelHtml s depth mode (Link.ofText raw)) := by
      unfold labelHtml
      split
      · exact nodesHtml_written s ih _ (fun _ => entity_of_parse) _
      · exact words_written _ _
    rw [linkHtml_succ]
    split
    · exact label
    · split
      · exact writtenAll_single (.anchor _ label)
      · split
        · exact label
        · exact writtenAll_single (.styled (by simp) label)

theorem html_written (t : Text) : WrittenAll (html s t) :=
  nodesHtml_written s (linkHtml_written s t.length) _ (fun _ => entity_of_parse) _

end Trees

theorem written_clean {node : Html} (written : Written node) : Html.Clean node := by
  induction written with
  | text t => trivial
  | space => exact (by decide : Html.Plain "nbsp".toList)
  | entity named => exact alphanumeric_plain (ofCharacterCode_entity named).2.2.1
  | anchor href _ ih =>
    have plain := Html.plainAttributes_single (by decide : Html.Plain "href".toList)
      (Html.escape_plain href)
    exact ⟨plain, Html.cleanAll_iff.mpr ih⟩
  | styled _ _ ih => exact ⟨by simp [Html.PlainAttributes], Html.cleanAll_iff.mpr ih⟩
  | file _ ih => exact ⟨by decide, Html.cleanAll_iff.mpr ih⟩

theorem html_clean (s : Setting) (t : Text) : Html.CleanAll (html s t) :=
  Html.cleanAll_iff.mpr fun node member => written_clean (html_written s t node member)

end PodSite.Inline
