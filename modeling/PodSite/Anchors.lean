import PodSite.Slug

/-!
Anchors of one document. The first title with a slug gets the slug itself, and later ones get a
number appended that makes the anchor new.
-/
namespace PodSite

/-- Every anchor handed out, with the last number tried for titles that have it as their slug. -/
structure Anchors where
  tried : List (Text × Nat)

namespace Anchors

def empty : Anchors := ⟨[]⟩

def issued (r : Anchors) : List Text := r.tried.map (·.1)

def numbered (base : Text) (k : Nat) : Text := base ++ '-' :: Text.decimal k

def firstFree (taken : List Text) (base : Text) : (tries first : Nat) → Nat
  | 0, k => k
  | tries + 1, k =>
    if taken.contains (numbered base k) then firstFree taken base tries (k + 1) else k

def note (r : Anchors) (anchor : Text) (k : Nat) : Anchors :=
  if r.issued.contains anchor then
    ⟨r.tried.map fun (a, n) => if a = anchor then (a, k) else (a, n)⟩
  else ⟨r.tried ++ [(anchor, k)]⟩

def base (title : Text) : Text :=
  match Slug.ofText title with
  | [] => "section".toList
  | slug => slug

/-- Hands out an anchor for `title`. Among as many numbers as there are anchors and one more, one is
free. -/
def issue (r : Anchors) (title : Text) : Text × Anchors :=
  let slug := base title
  match r.tried.lookup slug with
  | none => (slug, r.note slug 1)
  | some last =>
    let k := firstFree r.issued slug (r.tried.length + 1) (last + 1)
    let anchor := numbered slug k
    (anchor, (r.note slug k).note anchor 1)

def issueAll (r : Anchors) : List Text → List Text × Anchors
  | [] => ([], r)
  | title :: rest =>
    let (anchor, next) := r.issue title
    let (anchors, last) := next.issueAll rest
    (anchor :: anchors, last)

end Anchors
end PodSite
