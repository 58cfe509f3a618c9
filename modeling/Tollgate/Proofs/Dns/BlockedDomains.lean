import Tollgate.Dns.Blocklist
import Tollgate.Proofs.Text.Split
import Mathlib.Data.Finset.Card
import Mathlib.Data.Finset.Dedup

/-!
# A blocklist is a set of domains

A domain is told by its labels: the parts between its dots, in lower case and without the empty
ones. The tree of a blocklist holds exactly the domains that were blocked, and its size is their
number. `Holds` says so, and blocking one more domain keeps it. So neither the order in which
domains were blocked nor repetitions make a difference, and a name is blocked exactly if its labels
end in those of a blocked domain.
-/

namespace Tollgate.Dns

/-- The labels of a domain in lower case, the top-level domain last. Empty labels do not count. -/
def labelsOf (domain : List Char) : List String :=
  ((domain.splitOn '.').filter (· ≠ [])).map fun label => String.ofList (label.map Char.toLower)

/-- A name is a domain or below it: the labels of the name end in those of the domain, of which
there must be some. -/
structure Covers (domain : List Char) (name : String) : Prop where
  nonempty : labelsOf domain ≠ []
  isSuffix : labelsOf domain <:+ labelsOf name.toList

theorem covers_self {domain : List Char} (nonempty : labelsOf domain ≠ []) :
    Covers domain (String.ofList domain) :=
  ⟨nonempty, by rw [String.toList_ofList]⟩

theorem Covers.trans {above domain : List Char} {name : String}
    (above_covers : Covers above (String.ofList domain)) (covers : Covers domain name) :
    Covers above name := by
  obtain ⟨nonempty, isSuffix⟩ := above_covers
  rw [String.toList_ofList] at isSuffix
  exact ⟨nonempty, isSuffix.trans covers.isSuffix⟩

namespace BlockedTree

variable {tree : BlockedTree} {label other : String} {path : List String}

@[simp] theorem contains_empty (path : List String) : empty.contains path = false := by
  cases path with
  | nil => rfl
  | cons label path => rfl

/-- A missing subtree is as good as an empty one. -/
theorem contains_cons (tree : BlockedTree) (label : String) (path : List String) :
    tree.contains (label :: path) = ((tree.find? label).getD empty).contains path := by
  rw [contains]
  cases tree.find? label with
  | none => rw [Option.any_none, Option.getD_none, contains_empty]
  | some subtree => rfl

theorem contains_insert (tree : BlockedTree) (path other : List String) :
    (tree.insert path).contains other = true ↔ other = path ∨ tree.contains other = true := by
  induction path generalizing tree other with
  | nil =>
      cases other with
      | nil => simp [contains]
      | cons label other => simp [contains]
  | cons label path ih =>
      cases other with
      | nil => simp [contains]
      | cons first other =>
          rw [contains_cons, contains_cons, find?_insert_cons]
          by_cases here : first = label
          · rw [if_pos here, Option.getD_some, ih, here, List.cons.injEq]
            simp
          · rw [if_neg here, List.cons.injEq]
            simp [here]

@[simp] theorem covers_empty (labels : List String) : empty.covers labels = false := by
  cases labels with
  | nil => rfl
  | cons label labels => rfl

theorem covers_cons (tree : BlockedTree) (label : String) (labels : List String) :
    tree.covers (label :: labels) =
      (((tree.find? label).getD empty).contains [] ||
        ((tree.find? label).getD empty).covers labels) := by
  rw [covers]
  cases tree.find? label with
  | none => rw [Option.any_none, Option.getD_none, contains_empty, covers_empty, Bool.or_false]
  | some subtree => rfl

/-- What is covered has a blocked domain in front, which has at least one label. -/
theorem covers_iff (tree : BlockedTree) (labels : List String) :
    tree.covers labels = true ↔
      ∃ front, front ≠ [] ∧ front <+: labels ∧ tree.contains front = true := by
  induction labels generalizing tree with
  | nil =>
      constructor
      · exact nofun
      · rintro ⟨front, nonempty, isPrefix, -⟩
        exact absurd (List.prefix_nil.mp isPrefix) nonempty
  | cons label labels ih =>
      rw [covers_cons, Bool.or_eq_true]
      constructor
      · rintro (here | below)
        · refine ⟨[label], List.cons_ne_nil label [], ?_, ?_⟩
          · exact (List.prefix_cons_inj label).mpr List.nil_prefix
          · rwa [contains_cons]
        · obtain ⟨front, -, isPrefix, held⟩ := (ih _).mp below
          refine ⟨label :: front, List.cons_ne_nil label front, ?_, ?_⟩
          · exact (List.prefix_cons_inj label).mpr isPrefix
          · rwa [contains_cons]
      · rintro ⟨front, nonempty, isPrefix, held⟩
        obtain rfl | ⟨rest, rfl, rest_prefix⟩ := List.prefix_cons_iff.mp isPrefix
        · exact absurd rfl nonempty
        rw [contains_cons] at held
        cases rest with
        | nil => exact Or.inl held
        | cons first rest =>
            right
            exact (ih _).mpr ⟨first :: rest, List.cons_ne_nil first rest, rest_prefix, held⟩

end BlockedTree

namespace Blocklist

variable {list : Blocklist} {domains : Finset (List String)} {domain : String}

/-! ## The domains of a list -/

/-- In the tree the top-level domain comes first. -/
theorem labels_eq (domain : String) : labels domain = (labelsOf domain.toList).reverse := by
  have nonempty : ∀ label : List Char, (!label.isEmpty) = decide (label ≠ []) := by
    intro label
    cases label <;> rfl
  rw [labelsOf, ← Text.split_eq_splitOn, ← List.filter_congr fun label _ => nonempty label]
  rfl

/-- The list blocks these domains, each of them given by its labels, and counts them. -/
structure Holds (list : Blocklist) (domains : Finset (List String)) : Prop where
  contains_iff : ∀ domain, list.tree.contains domain.reverse = true ↔ domain ∈ domains
  size_eq : list.size = domains.card
  /-- The root of all names is not blocked. -/
  root_free : [] ∉ domains

theorem holds_empty : empty.Holds ∅ where
  contains_iff domain := by simp [empty]
  size_eq := rfl
  root_free := Finset.notMem_empty []

theorem insert_of_labelsOf_eq_nil (none : labelsOf domain.toList = []) :
    list.insert domain = list := by
  rw [insert, labels_eq, none]
  rfl

theorem insert_of_labelsOf_ne_nil (some_label : labelsOf domain.toList ≠ []) :
    list.insert domain =
      ⟨list.tree.insert (labelsOf domain.toList).reverse,
        if list.tree.contains (labelsOf domain.toList).reverse then list.size
        else list.size + 1⟩ := by
  rw [insert, labels_eq]
  split
  next none => exact absurd (List.reverse_eq_nil_iff.mp none) some_label
  next first rest path => rw [path]

theorem Holds.insert (holds : list.Holds domains) (some_label : labelsOf domain.toList ≠ []) :
    (list.insert domain).Holds (Insert.insert (labelsOf domain.toList) domains) := by
  rw [insert_of_labelsOf_ne_nil some_label]
  constructor
  case contains_iff =>
    intro other
    rw [BlockedTree.contains_insert, holds.contains_iff, List.reverse_inj, Finset.mem_insert]
  case size_eq =>
    by_cases known : labelsOf domain.toList ∈ domains
    · rw [if_pos ((holds.contains_iff _).mpr known), Finset.insert_eq_of_mem known, holds.size_eq]
    · rw [if_neg fun held => known ((holds.contains_iff _).mp held),
        Finset.card_insert_of_notMem known, holds.size_eq]
  case root_free =>
    rw [Finset.mem_insert, not_or]
    exact ⟨some_label.symm, holds.root_free⟩

/-- The domains that have labels, each of them once. -/
def named (domains : List String) : Finset (List String) :=
  ((domains.map fun domain => labelsOf domain.toList).filter (· ≠ [])).toFinset

theorem mem_named {domains : List String} {labels : List String} :
    labels ∈ named domains ↔ labels ≠ [] ∧ ∃ domain ∈ domains, labelsOf domain.toList = labels := by
  rw [named, List.mem_toFinset, List.mem_filter, List.mem_map, decide_eq_true_eq, and_comm]

/-- The list that is made by blocking domains one after another. -/
def ofDomains (domains : List String) : Blocklist := domains.foldl Blocklist.insert empty

theorem ofDomains_append_singleton (domains : List String) (domain : String) :
    ofDomains (domains ++ [domain]) = (ofDomains domains).insert domain := by
  rw [ofDomains, List.foldl_append, List.foldl_cons, List.foldl_nil, ofDomains]

theorem holds_ofDomains (domains : List String) : (ofDomains domains).Holds (named domains) := by
  induction domains using List.reverseRecOn with
  | nil => exact holds_empty
  | append_singleton domains domain ih =>
      rw [ofDomains_append_singleton]
      by_cases none : labelsOf domain.toList = []
      · have same : named (domains ++ [domain]) = named domains := by
          simp [named, none]
        rw [insert_of_labelsOf_eq_nil none, same]
        exact ih
      · have added : named (domains ++ [domain]) =
            Insert.insert (labelsOf domain.toList) (named domains) := by
          ext labels
          simp [named, none]
        rw [added]
        exact ih.insert none

/-- A name is blocked exactly if its labels end in those of a domain that is held. -/
theorem Holds.blocks_iff (holds : list.Holds domains) (name : String) :
    list.blocks name = true ↔ ∃ domain ∈ domains, domain <:+ labelsOf name.toList := by
  rw [blocks, labels_eq, BlockedTree.covers_iff]
  constructor
  · rintro ⟨front, -, isPrefix, held⟩
    refine ⟨front.reverse, (holds.contains_iff _).mp (by rwa [List.reverse_reverse]), ?_⟩
    rwa [← List.reverse_prefix, List.reverse_reverse]
  · rintro ⟨domain, mem, isSuffix⟩
    refine ⟨domain.reverse, ?_, List.reverse_prefix.mpr isSuffix, (holds.contains_iff _).mpr mem⟩
    rw [Ne, List.reverse_eq_nil_iff]
    rintro rfl
    exact holds.root_free mem

theorem Holds.isEmpty_iff (holds : list.Holds domains) : list.isEmpty = true ↔ domains = ∅ := by
  rw [isEmpty, decide_eq_true_eq, holds.size_eq, Finset.card_eq_zero]

theorem exists_named_iff {domains : List String} {name : String} :
    (∃ domain ∈ named domains, domain <:+ labelsOf name.toList) ↔
      ∃ domain ∈ domains, Covers domain.toList name := by
  constructor
  · rintro ⟨_, named, isSuffix⟩
    obtain ⟨nonempty, domain, mem, rfl⟩ := mem_named.mp named
    exact ⟨domain, mem, nonempty, isSuffix⟩
  · rintro ⟨domain, mem, nonempty, isSuffix⟩
    exact ⟨_, mem_named.mpr ⟨nonempty, domain, mem, rfl⟩, isSuffix⟩

/-- Domains that were blocked one after another block exactly the names that are one of them or
below one of them. -/
theorem blocks_ofDomains_iff (domains : List String) (name : String) :
    (ofDomains domains).blocks name = true ↔ ∃ domain ∈ domains, Covers domain.toList name := by
  rw [(holds_ofDomains domains).blocks_iff, exists_named_iff]

/-- Which domains have labels does not hang on their order or on repetitions. -/
theorem named_eq_of_same_members {domains others : List String}
    (same : ∀ domain, domain ∈ others ↔ domain ∈ domains) : named others = named domains := by
  ext labels
  simp only [mem_named, same]

theorem Holds.size_eq_of_same {other : Blocklist} (holds : list.Holds domains)
    (other_holds : other.Holds domains) : other.size = list.size :=
  other_holds.size_eq.trans holds.size_eq.symm

theorem Holds.blocks_eq_of_same {other : Blocklist} (holds : list.Holds domains)
    (other_holds : other.Holds domains) (name : String) : other.blocks name = list.blocks name := by
  rw [Bool.eq_iff_iff, holds.blocks_iff, other_holds.blocks_iff]

/-- The size of a list is the number of domains that it was made of, each counted once however often
and in whatever spelling it came, and not at all without labels. The list is empty exactly if there
is none. And the order and the repetitions of the domains make no difference. -/
theorem inserted_counted_once (domains : List String) :
    (ofDomains domains).size =
        ((domains.map fun domain => labelsOf domain.toList).filter (· ≠ [])).toFinset.card ∧
      ((ofDomains domains).isEmpty = true ↔
        ∀ domain ∈ domains, labelsOf domain.toList = []) ∧
      ∀ others, (∀ domain, domain ∈ others ↔ domain ∈ domains) →
        (ofDomains others).size = (ofDomains domains).size ∧
          ∀ name, (ofDomains others).blocks name = (ofDomains domains).blocks name := by
  have holds := holds_ofDomains domains
  refine ⟨holds.size_eq, ?_, ?_⟩
  · rw [holds.isEmpty_iff, Finset.eq_empty_iff_forall_notMem]
    constructor
    · intro absent domain mem
      by_contra nonempty
      exact absent _ (mem_named.mpr ⟨nonempty, domain, mem, rfl⟩)
    · intro unlabelled labels named
      obtain ⟨nonempty, domain, mem, rfl⟩ := mem_named.mp named
      exact nonempty (unlabelled domain mem)
  · intro others same
    have other_holds := holds_ofDomains others
    rw [named_eq_of_same_members same] at other_holds
    exact ⟨holds.size_eq_of_same other_holds, holds.blocks_eq_of_same other_holds⟩

/-- Of four texts one has no labels and two are one domain. In another order, and with a text
repeated, they make a list of the same two domains. -/
theorem respelled_counted_once :
    (∀ domain, domain ∈ ["test", "", "A.test.", "a.test", "test"] ↔
        domain ∈ ["a.test", "A.test.", "", "test"]) ∧
      (ofDomains ["a.test", "A.test.", "", "test"]).size = 2 ∧
      (ofDomains ["test", "", "A.test.", "a.test", "test"]).size =
        (ofDomains ["a.test", "A.test.", "", "test"]).size ∧
      (ofDomains ["test", "", "A.test.", "a.test", "test"]).blocks "b.TEST" =
        (ofDomains ["a.test", "A.test.", "", "test"]).blocks "b.TEST" := by
  have same : ∀ domain, domain ∈ ["test", "", "A.test.", "a.test", "test"] ↔
      domain ∈ ["a.test", "A.test.", "", "test"] := by
    intro domain
    simp only [List.mem_cons, List.not_mem_nil, or_false]
    tauto
  obtain ⟨sizes, answers⟩ := (inserted_counted_once _).2.2 _ same
  exact ⟨same, by decide +kernel, sizes, answers "b.TEST"⟩

end Blocklist

end Tollgate.Dns
