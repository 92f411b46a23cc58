import LexicalAutomata.Graph.Basic

namespace LexicalAutomata

/-!
# Fragments of a graph

A fragment is a part of a graph with an entry and an exit.  No edge leads to an
entry and no edge leaves an exit until the fragment is put to use, so a fragment
can be put into another one without changing what it matches.
-/

/-- The numbers of the nodes where a part of a graph is entered and left. -/
structure Fragment where
  first : Nat
  last : Nat
  deriving Repr, DecidableEq, Inhabited

/-- What adds something to a graph. -/
abbrev Build
    (τ : Type) :=
  StateM (Graph τ)

namespace Build

variable {τ : Type}

/-- Add a node. -/
def node : Build τ Nat :=
  modifyGet fun graph => (graph.size, graph.addNode)

/-- Add a silent edge. -/
def link
    (source target : Nat) :
    Build τ Unit :=
  modify fun graph => graph.link source target

/-- Change one node. -/
def change
    (id : Nat)
    (change : Node τ → Node τ) :
    Build τ Unit :=
  modify fun graph => graph.modifyNode id change

/-- A fragment that is crossed without reading. -/
def empty : Build τ Fragment := do
  let first ← node
  let last ← node
  link first last
  return ⟨first, last⟩

/-- A fragment that is crossed over one labelled edge. -/
def label
    (label : Label) :
    Build τ Fragment := do
  let first ← node
  let last ← node
  modify fun graph => graph.addEdge first (.labelled label last)
  return ⟨first, last⟩

/-- Cross one fragment and then another one. -/
def chain
    (former latter : Fragment) :
    Build τ Fragment := do
  link former.last latter.first
  return ⟨former.first, latter.last⟩

/-- Put a fragment behind what there is in front of it, if there is anything. -/
def append
    (former : Option Fragment)
    (latter : Fragment) :
    Build τ Fragment :=
  match former with
  | none =>
      return latter
  | some former =>
      chain former latter

/-- What has been put together, or an empty fragment if that is nothing. -/
def orEmpty
    (fragment : Option Fragment) :
    Build τ Fragment :=
  match fragment with
  | none =>
      empty
  | some fragment =>
      return fragment

/-- Put characters behind what there is in front of them. -/
def appendChars
    (former : Option Fragment) :
    List Char →
    Build τ (Option Fragment)
  | [] =>
      return former
  | char :: rest => do
      let latter ← label (.ofChar char)
      let whole ← append former latter
      appendChars (some whole) rest

/-- A fragment that is crossed by reading exactly the given text. -/
def text
    (text : List Char) :
    Build τ Fragment := do
  orEmpty (← appendChars none text)

/-- Cross a fragment any number of times. -/
def star
    (inner : Fragment) :
    Build τ Fragment := do
  let first ← node
  let last ← node
  link inner.last inner.first
  link first inner.first
  link inner.last last
  link first last
  return ⟨first, last⟩

/-- Cross a fragment or leave it out. -/
def optional
    (inner : Fragment) :
    Build τ Fragment := do
  link inner.first inner.last
  return inner

/-- Make two nodes the ends of each of the fragments as well. -/
def enclose
    (first last : Nat) :
    List Fragment →
    Build τ Unit
  | [] =>
      return ()
  | inner :: rest => do
      link first inner.first
      link inner.last last
      enclose first last rest

/-- Cross any one of the fragments. -/
def union
    (fragments : List Fragment) :
    Build τ Fragment := do
  let first ← node
  let last ← node
  enclose first last fragments
  return ⟨first, last⟩

/-- Cross any one of the fragments; a single one stands for itself. -/
def alternatives : List Fragment → Build τ Fragment
  | [only] =>
      return only
  | fragments =>
      union fragments

/-- Let a run end as soon as it has crossed a fragment, and the match in front of the ender. -/
def endBefore
    (fragment : Fragment)
    (enderLength : Nat) :
    Build τ Fragment := do
  change fragment.last fun node => { node with immediate := true, enderLength }
  return fragment

/-- Add to the priority of a node; a sum that is too great or too small wraps around. -/
def raise
    (id : Nat)
    (amount : Int32) :
    Build τ Unit :=
  change id fun node => { node with priority := node.priority + amount }

end Build

end LexicalAutomata
