import Tollgate.Text.Blank
import Tollgate.Text.Split

/-!
# Blocked domains

A blocklist is a tree of labels, the top-level domain at the root, so that a blocked domain blocks
all names below it. ASCII case and empty labels make no difference. Lists are text with one domain
on a line, perhaps behind a qualifier such as `domain:`, and comments behind `#`.
-/

namespace Tollgate.Dns

/-- A node of the tree: whether the domain that it stands for is blocked, and the labels below. -/
inductive BlockedTree where
  | node (blocked : Bool) (below : List (String × BlockedTree))

namespace BlockedTree

def empty : BlockedTree := node false []

def blocked : BlockedTree → Bool
  | node blocked _ => blocked

def branches : BlockedTree → List (String × BlockedTree)
  | node _ below => below

def find? (tree : BlockedTree) (label : String) : Option BlockedTree := tree.branches.lookup label

private def put (label : String) (subtree : BlockedTree) :
    List (String × BlockedTree) → List (String × BlockedTree)
  | [] => [(label, subtree)]
  | (other, old) :: rest =>
    if other = label then (label, subtree) :: rest else (other, old) :: put label subtree rest

private theorem lookup_branch (label other : String) (subtree : BlockedTree)
    (below : List (String × BlockedTree)) :
    ((label, subtree) :: below).lookup other =
      if other = label then some subtree else below.lookup other := by
  by_cases same : other = label
  · rw [if_pos same, same, List.lookup_cons_self]
  · rw [if_neg same, List.lookup_cons, beq_false_of_ne same]

private theorem lookup_put (label other : String) (subtree : BlockedTree)
    (below : List (String × BlockedTree)) :
    (put label subtree below).lookup other =
      if other = label then some subtree else below.lookup other := by
  induction below with
  | nil => exact lookup_branch label other subtree []
  | cons branch below ih =>
      obtain ⟨first, old⟩ := branch
      by_cases here : first = label
      · rw [put, if_pos here, lookup_branch, lookup_branch, here]
        split <;> rfl
      · rw [put, if_neg here, lookup_branch, lookup_branch, ih]
        by_cases found : other = first
        · rw [if_pos found, if_pos found, if_neg (found ▸ here)]
        · rw [if_neg found, if_neg found]

/-- Blocks the domain with these labels, the top-level domain first. -/
def insert (tree : BlockedTree) : List String → BlockedTree
  | [] => node true tree.branches
  | label :: labels =>
    let subtree := insert ((tree.find? label).getD empty) labels
    node tree.blocked (put label subtree tree.branches)

@[simp] theorem blocked_insert_nil (tree : BlockedTree) : (tree.insert []).blocked = true := rfl

@[simp] theorem find?_insert_nil (tree : BlockedTree) (label : String) :
    (tree.insert []).find? label = tree.find? label := rfl

@[simp] theorem blocked_insert_cons (tree : BlockedTree) (label : String) (labels : List String) :
    (tree.insert (label :: labels)).blocked = tree.blocked := rfl

/-- Only the subtree at the first label is changed. -/
theorem find?_insert_cons (tree : BlockedTree) (label other : String) (labels : List String) :
    (tree.insert (label :: labels)).find? other =
      if other = label then some (((tree.find? label).getD empty).insert labels)
      else tree.find? other :=
  lookup_put label other _ tree.branches

/-- Whether exactly this domain was blocked. -/
def contains (tree : BlockedTree) : List String → Bool
  | [] => tree.blocked
  | label :: labels => (tree.find? label).any (contains · labels)

/-- Whether a domain or one above it is blocked. The root of all names never is. -/
def covers (tree : BlockedTree) : List String → Bool
  | [] => false
  | label :: labels =>
    (tree.find? label).any fun subtree => subtree.blocked || subtree.covers labels

end BlockedTree

structure Blocklist where
  tree : BlockedTree
  /-- How many domains are blocked. -/
  size : Nat

namespace Blocklist

def empty : Blocklist := ⟨BlockedTree.empty, 0⟩

private def lower (label : List Char) : String := String.ofList (label.map Char.toLower)

/-- The labels of a domain in lower case, the top-level domain first. Empty labels do not count. -/
def labels (domain : String) : List String :=
  (((Text.split '.' domain.toList).filter (!·.isEmpty)).map lower).reverse

/-- Blocks a domain. A text without labels blocks nothing. -/
def insert (list : Blocklist) (domain : String) : Blocklist :=
  match labels domain with
  | [] => list
  | label :: rest =>
    let path := label :: rest
    ⟨list.tree.insert path, if list.tree.contains path then list.size else list.size + 1⟩

def isEmpty (list : Blocklist) : Bool := list.size = 0

/-- Whether a name or a domain above it is blocked. -/
def blocks (list : Blocklist) (name : String) : Bool := list.tree.covers (labels name)

/-- The domain on a line of a list, if there is one: what stands behind the last colon once the
comment and the blanks at both ends are gone. -/
def domainOfLine? (line : List Char) : Option String :=
  match Text.trim (Text.before '#' line) with
  | [] => none
  | entry => some (String.ofList (Text.afterLast ':' entry))

/-- The domains that a list names, in order. -/
def domains (list : String) : List String := (Text.split '\n' list.toList).filterMap domainOfLine?

def ofText (list : String) : Blocklist := (domains list).foldl insert empty

end Blocklist

end Tollgate.Dns
