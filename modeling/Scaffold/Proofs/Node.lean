import Scaffold.Schema
import Scaffold.Proofs.Dict

/-!
# Trees in order

A map of a tree is a list of entries, and the type does not say that they stand by ascending
key.  Every tree whose maps are built with `Node.ofEntries` has all of them in order, and so
has every tree that is read from a text (`SchemaFormat.ordered_of_read`).

## Main definitions

* `Node.Ordered`, `Domain.Ordered` — maps whose entries stand by ascending key.

## Main results

* `Node.Ordered.ofEntries`, `Domain.Ordered.ofEntries` — trees that are built in order.
-/

namespace Scaffold

/-- The entries of every map stand by ascending key, so no key comes twice. -/
inductive Node.Ordered : Node → Prop
  | null : Ordered .null
  | bool (value : Bool) : Ordered (.bool value)
  | number (literal : String) : Ordered (.number literal)
  | string (value : String) : Ordered (.string value)
  | list {items : List Node} (h : ∀ n ∈ items, n.Ordered) : Ordered (.list items)
  | map {entries : List (String × Node)}
      (ordered : entries.Pairwise fun a b => compare a.1 b.1 = .lt)
      (h : ∀ e ∈ entries, e.2.Ordered) : Ordered (.map entries)

/-- All maps below the sections of a domain are in order. -/
def Domain.Ordered (d : Domain) : Prop :=
  ∀ tag node, d.sections.get? tag = some node → node.Ordered

namespace Node.Ordered

variable {entries : List (String × Node)}

theorem pairwise (h : (Node.map entries).Ordered) :
    entries.Pairwise fun a b => compare a.1 b.1 = .lt := by
  cases h with
  | map ordered _ => exact ordered

theorem of_mem (h : (Node.map entries).Ordered) {e : String × Node} (he : e ∈ entries) :
    e.2.Ordered := by
  cases h with
  | map _ h => exact h e he

theorem of_field (h : (Node.map entries).Ordered) {key : String} {node : Node}
    (hfield : field? key entries = some node) : node.Ordered :=
  h.of_mem (Dict.mem_of_lookup hfield)

theorem ofDict {d : Dict String Node} (h : ∀ e ∈ d.entries, e.2.Ordered) :
    (Node.ofDict d).Ordered :=
  .map d.ordered h

/-- **A map from entries in any order** has them in order. -/
theorem ofEntries (h : ∀ e ∈ entries, e.2.Ordered) : (Node.ofEntries entries).Ordered :=
  ofDict fun _ he => h _ (Dict.mem_of_get?_ofList (Dict.mem_entries_iff.mp he))

end Node.Ordered

theorem Domain.Ordered.ofEntries {name : String} {entries : List (String × Node)}
    (h : ∀ e ∈ entries, e.2.Ordered) : Domain.Ordered ⟨name, .ofList entries⟩ :=
  fun _ _ hget => h _ (Dict.mem_of_get?_ofList hget)

end Scaffold
