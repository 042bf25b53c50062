import BackendLink.Yaml.Token

/-!
# Documents as trees

A document is a tree of scalars, sequences and mappings. An anchor numbers a node, and an alias
stands for the node with its number. Where a text stops being readable the tree has a `cut`: what
comes before it is still there, so a reader that goes through the tree in order meets what is wrong
with the values before it meets the cut.
-/

namespace BackendLink.Yaml

inductive Node
  | scalar (anchor : Option Nat) (tag : Option (List Char)) (style : Style) (text : List Char)
  | sequence (anchor : Option Nat) (items : List Node)
  | mapping (anchor : Option Nat) (entries : List (Node × Node))
  | reference (number : Nat)
  /-- The text cannot be read from here on. -/
  | cut
  deriving Repr

namespace Node

/-- An empty value: nothing was written. -/
def empty : Node := scalar none none .plain []

mutual

/-- Nothing of the node is cut off. -/
def isWhole : Node → Bool
  | scalar .. | reference _ => true
  | sequence _ items => areWhole items
  | mapping _ entries => entriesWhole entries
  | cut => false

def areWhole : List Node → Bool
  | [] => true
  | n :: rest => n.isWhole && areWhole rest

def entriesWhole : List (Node × Node) → Bool
  | [] => true
  | (k, v) :: rest => k.isWhole && v.isWhole && entriesWhole rest

end

mutual

/-- The numbered nodes of a tree, in the order of the text. -/
def anchored : Node → List (Nat × Node)
  | scalar anchor tag style text => (anchor.map fun n => (n, scalar anchor tag style text)).toList
  | sequence anchor items =>
    (anchor.map fun n => (n, sequence anchor items)).toList ++ anchoredItems items
  | mapping anchor entries =>
    (anchor.map fun n => (n, mapping anchor entries)).toList ++ anchoredEntries entries
  | reference _ | cut => []

def anchoredItems : List Node → List (Nat × Node)
  | [] => []
  | n :: rest => n.anchored ++ anchoredItems rest

def anchoredEntries : List (Node × Node) → List (Nat × Node)
  | [] => []
  | (k, v) :: rest => k.anchored ++ v.anchored ++ anchoredEntries rest

end

end Node

structure Document where
  /-- A text of nothing but comments has no root. -/
  root : Option Node
  /-- The whole text was read, and it is one document. -/
  complete : Bool
  deriving Repr

namespace Document

/-- The node that an alias stands for: of those with its number, the last one. -/
def target (d : Document) (number : Nat) : Option Node :=
  match d.root with
  | none => none
  | some root => (root.anchored.reverse.find? fun entry => entry.1 == number).map Prod.snd

/-- What a node stands for. -/
def resolve (d : Document) : Node → Node
  | .reference number => (d.target number).getD .cut
  | node => node

end Document
end BackendLink.Yaml
