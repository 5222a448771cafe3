import PodSite.Pattern.Compose
import PodSite.Text.Utf8
import PodSite.Text.Utf8Ranges
import Std.Data.HashMap

/-!
How large the automaton of an expression is. It works on bytes, copies the body of a repetition as
often as the counts say, and is made twice: once to read a text forward and note the groups, once to
read it backward. A pattern is refused if either needs more memory than is allowed.
-/
namespace PodSite.Pattern
open Text (CharSet)
open Text.Utf8 (ByteRange)

inductive Direction where
  | forward
  | backward
deriving DecidableEq, Repr

/-- What an automaton takes: its states, which are alike in size, and the bytes of the lists that
some of them hold. -/
structure Tally where
  states : Nat
  attached : Nat

namespace Tally

def bytes (t : Tally) : Nat := 32 * t.states + t.attached

def maxBytes : Nat := 10485760

def grow? (t : Tally) (states attached : Nat) : Option Tally :=
  let next : Tally := ⟨t.states + states, t.attached + attached⟩
  if next.bytes ≤ maxBytes then some next else none

def repeat? (once : Tally → Option Tally) : (count : Nat) → Tally → Option Tally
  | 0, t => some t
  | count + 1, t =>
    match once t with
    | none => none
    | some t => repeat? once count t

end Tally

/-- A table in which states are looked up by the numbers that describe them. It has a fixed number
of places; two descriptions with the same place drive each other out. -/
structure StateTable where
  size : Nat
  places : Std.HashMap Nat (List Nat × Nat)

namespace StateTable

def empty (size : Nat) : StateTable := ⟨size, ∅⟩

def mix (hash : UInt64) (n : Nat) : UInt64 := (hash ^^^ n.toUInt64) * 1099511628211

def place (t : StateTable) (description : List Nat) : Nat :=
  (description.foldl mix 14695981039346656037).toNat % t.size

def find? (t : StateTable) (description : List Nat) : Option Nat :=
  match t.places[t.place description]? with
  | some (found, state) => if found = description then some state else none
  | none => none

def insert (t : StateTable) (description : List Nat) (state : Nat) : StateTable :=
  { t with places := t.places.insert (t.place description) (description, state) }

end StateTable

structure SetTally where
  tally : Tally
  table : StateTable

namespace SetTally

def stateFor (t : SetTally) (description : List Nat) (attached : Nat) : Nat × SetTally :=
  match t.table.find? description with
  | some state => (state, t)
  | none =>
    let state := t.tally.states
    (state, ⟨⟨state + 1, t.tally.attached + attached⟩, t.table.insert description state⟩)

def addChain (stop : Nat) (t : SetTally) (sequence : List ByteRange) : SetTally :=
  (sequence.foldl
    (fun ((next, t) : Nat × SetTally) (range : ByteRange) =>
      t.stateFor [next, range.1, range.2] 0)
    (stop, t)).2

/-- The state that reads one of the sequences forward, up to the state `stop`. Sequences that start
alike go on from the same state, and states with the same ways out are one. -/
def addTree (stop : Nat) : (levels : Nat) → List (List ByteRange) → SetTally → Nat × SetTally
  | 0, _, t => (stop, t)
  | levels + 1, sequences, t =>
    let groups := sequences.splitBy fun a b => a.head? == b.head?
    let (waysOut, t) := groups.foldl
      (fun ((waysOut, t) : List Nat × SetTally) group =>
        match group with
        | (range :: _) :: _ =>
          let rests := group.map List.tail
          let (next, t) :=
            if rests.all List.isEmpty then (stop, t) else addTree stop levels rests t
          (waysOut ++ [range.1, range.2, next], t)
        | _ => (waysOut, t))
      ([], t)
    t.stateFor waysOut (8 * groups.length)

end SetTally

def Tally.addSet (t : Tally) (direction : Direction) (sequences : List (List ByteRange)) : Tally :=
  match direction with
  | .forward =>
    let start : SetTally := ⟨⟨t.states + 1, t.attached⟩, .empty 10000⟩
    (SetTally.addTree t.states 4 sequences start).2.tally
  | .backward =>
    let start : SetTally :=
      ⟨⟨t.states + 2, t.attached + 4 * sequences.length⟩, .empty 1000⟩
    (sequences.foldl (SetTally.addChain (t.states + 1)) start).tally

def betweenEnds : List Bytes → List (List Bytes)
  | [] => [[]]
  | word :: rest =>
    match word, betweenEnds rest with
    | [], runs => [] :: runs
    | word, run :: runs => (word :: run) :: runs
    | word, [] => [[word]]

/-- The states that tell words apart byte by byte, and the bytes of their lists. Words with a common
start share its states as long as no other word ends in between. -/
def addWords : (fuel : Nat) → List Bytes → Tally → Tally
  | 0, _, t => t
  | fuel + 1, words, t =>
    let runs := betweenEnds words
    let ends := runs.length - 1 - ((runs.takeWhile List.isEmpty).length - 1)
    let runs := runs.filter (!·.isEmpty)
    let own : Tally := ⟨t.states + 1, t.attached + 4 * (runs.length + ends)⟩
    runs.foldl
      (fun t run =>
        let heads := (run.filterMap List.head?).eraseDups
        let t : Tally :=
          ⟨t.states + 1, t.attached + (if heads.length = 1 then 0 else 8 * heads.length)⟩
        heads.foldl
          (fun t head =>
            let rests := (run.filter (·.head? == some head)).map List.tail
            if rests.all List.isEmpty then t else addWords fuel rests t)
          t)
      own

namespace Regex

def literal? : Regex → Option Text
  | literal text => some text
  | _ => none

def tallyWords (direction : Direction) (texts : List Text) (t : Tally) : Option Tally :=
  let words := texts.map fun text =>
    match direction with
    | .forward => Text.Utf8.encode text
    | .backward => (Text.Utf8.encode text).reverse
  let fuel := (words.map List.length).foldl max 0
  (addWords fuel words ⟨t.states + 1, t.attached⟩).grow? 0 0

mutual
def tally (direction : Direction) : Regex → Tally → Option Tally
  | empty, t => t.grow? 1 0
  | literal text, t => t.grow? text.byteCount 0
  | set s, t =>
    if s.isAscii then t.grow? 2 (8 * s.ranges.length)
    else (t.addSet direction (Text.Utf8.sequences s)).grow? 0 0
  | assertion _, t => t.grow? 1 0
  | sequence parts, t => tallyAll direction parts t
  | alternatives parts, t =>
    match parts.mapM literal? with
    | some texts => tallyWords direction texts t
    | none => tallyBranches direction 0 parts t
  | repetition 0 (some 1) _ body, t => do
    (← tally direction body (← t.grow? 1 8)).grow? 1 0
  | repetition 0 none _ body, t => do
    if body.neverEmpty then tally direction body (← t.grow? 1 8)
    else (← tally direction body t).grow? 3 16
  | repetition least none _ body, t => do
    (← Tally.repeat? (tally direction body) least t).grow? 1 8
  | repetition least (some most) _ body, t => do
    let t ← if least = 0 then t.grow? 1 0 else Tally.repeat? (tally direction body) least t
    if least = most then return t
    let t ← t.grow? 1 0
    Tally.repeat? (fun t => (t.grow? 1 8).bind (tally direction body)) (most - least) t
  | capture _ body, t =>
    match direction with
    | .forward => do (← tally direction body (← t.grow? 1 0)).grow? 1 0
    | .backward => tally direction body t
def tallyAll (direction : Direction) : List Regex → Tally → Option Tally
  | [], t => some t
  | part :: rest, t =>
    match direction with
    | .forward => do tallyAll direction rest (← tally direction part t)
    | .backward => do tally direction part (← tallyAll direction rest t)
/-- Adds alternatives, of which `before` are done. The states in front of them and after them come
with the second one. -/
def tallyBranches (direction : Direction) (before : Nat) : List Regex → Tally → Option Tally
  | [], t => some t
  | part :: rest, t => do
    let t ← tally direction part t
    tallyBranches direction (before + 1) rest (← t.grow? (if before = 1 then 2 else 0) 4)
end

/-- The automaton for one direction stays within the bound. Unless every match starts at the start
of the text, or ends at its end, states are added that pass over what comes first. -/
def fitsIn (direction : Direction) (r : Regex) : Bool :=
  let anchored :=
    match direction with
    | .forward => r.startsWith .textStart
    | .backward => r.endsWith .textEnd
  let start : Tally := if anchored then ⟨1, 0⟩ else ⟨3, 16⟩
  ((tally direction (capture 0 r) start).bind fun t => t.grow? 1 0).isSome

def isWordList : Regex → Bool
  | alternatives parts => 3000 ≤ parts.length && parts.all fun part => part.literal?.isSome
  | _ => false

def fits (r : Regex) : Bool := r.isWordList || (r.fitsIn .forward && r.fitsIn .backward)

end Regex
end PodSite.Pattern
