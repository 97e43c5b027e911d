import Scaffold.Proofs.Toml.Keys

/-!
# The table of a plain text

Where no key has dots and no header starts an element of a list, nothing is nested but the
tables of the headers.  Then every entry of the table can be traced back: it has been assigned
in front of the first header, or it is the table of a header, and what is in that has been
assigned.

## Main definitions

* `Statement.IsPlain` — a statement with a key of one part.
* `Brought` — an entry at the top that plain statements bring.
* `Draft.Told` — the invariant of a plain text while it is read.

## Main results

* `Draft.Told.apply`, `Draft.Told.finish` — one statement, and the end of the text.
* `of_mem_ofStatements` — **where an entry of the table comes from.**
-/

namespace Scaffold.Toml

/-- The statement has a key of one part, and starts no element of a list. -/
def Statement.IsPlain : Statement → Prop
  | .empty => True
  | .assign key _ => key.path = []
  | .table key => key.path = []
  | .element _ => False

/-- Every entry has been assigned by one of the statements. -/
def Assigned (statements : List Statement) (entries : Entries) : Prop :=
  ∀ e ∈ entries, ∃ v, e.2 = .value v ∧ .assign ⟨[], e.1⟩ v ∈ statements

/-- The entry at the top has been assigned, or is the table of a header. -/
inductive Brought (statements : List Statement) : String × Entry → Prop
  | assign {key : String} {v : Value} (h : .assign ⟨[], key⟩ v ∈ statements) :
    Brought statements (key, .value v)
  | header {key : String} {inner : Entries} (h : .table ⟨[], key⟩ ∈ statements)
    (hinner : Assigned statements inner) : Brought statements (key, .table .header inner)

variable {statements : List Statement}

theorem Assigned.append {entries : Entries} {key : String} {v : Value}
    (h : Assigned statements entries) (hv : .assign ⟨[], key⟩ v ∈ statements) :
    Assigned statements (entries ++ [(key, .value v)]) :=
  List.forall_mem_append.mpr ⟨h, List.forall_mem_singleton.mpr ⟨v, rfl, hv⟩⟩

theorem Assigned.brought {entries : Entries} (h : Assigned statements entries) :
    ∀ e ∈ entries, Brought statements e := by
  rintro ⟨key, e⟩ he
  obtain ⟨v, rfl, hv⟩ := h _ he
  exact .assign hv

/-- A value under a key of one part is put behind everything else. -/
theorem Entries.eq_of_put_nil {key : String} {v : Value} {entries out : Entries}
    (h : Entries.put [] key v entries = some out) : out = entries ++ [(key, .value v)] := by
  obtain ⟨⟨out, a⟩, hupdate, h⟩ := Option.bind_eq_some_iff.mp h
  obtain rfl := Option.some.inj h
  obtain ⟨added, hadd, hchange⟩ := Option.bind_eq_some_iff.mp hupdate
  obtain ⟨rfl, -⟩ := Prod.mk.inj (Option.some.inj hchange)
  rw [add] at hadd
  split at hadd
  · cases hadd
  · exact (Option.some.inj hadd).symm

namespace Draft

/-- What holds of a draft after plain statements. -/
structure Told (statements : List Statement) (d : Draft) : Prop where
  /-- What is complete has been brought by them. -/
  root : ∀ e ∈ d.root, Brought statements e
  /-- What comes next to it has been assigned. -/
  current : Assigned statements d.current
  /-- It goes to the top or into the table of a header. -/
  target : d.target = .top ∨ ∃ key, d.target = .table ⟨[], key⟩ ∧ .table ⟨[], key⟩ ∈ statements

variable {d d' : Draft}

/-- **At the end of the text** all entries have been brought by its statements. -/
theorem Told.finish {out : Entries} (hd : d.Told statements) (h : d.finish = some out) :
    ∀ e ∈ out, Brought statements e := by
  rw [Draft.finish] at h
  rcases hd.target with htarget | ⟨key, htarget, hkey⟩
  · rw [htarget] at h
    obtain rfl := Option.some.inj h
    exact hd.current.brought
  · rw [htarget] at h
    obtain ⟨⟨root, _⟩, hparent, h⟩ := Option.bind_eq_some_iff.mp h
    obtain rfl := Option.some.inj h
    obtain ⟨rfl, -⟩ := Prod.mk.inj (Option.some.inj hparent)
    exact List.forall_mem_append.mpr
      ⟨hd.root, List.forall_mem_singleton.mpr (.header hkey hd.current)⟩

/-- **One plain statement** brings its own entry, or a table for the entries behind it. -/
theorem Told.apply {s : Statement} (hd : d.Told statements) (hs : s ∈ statements)
    (hplain : s.IsPlain) (h : d.apply s = some d') : d'.Told statements := by
  cases s with
  | empty =>
    obtain rfl := Option.some.inj h
    exact hd
  | assign key v =>
    obtain ⟨path, key⟩ := key
    obtain rfl : path = [] := hplain
    obtain ⟨current, hput, h⟩ := Option.bind_eq_some_iff.mp h
    obtain rfl := Option.some.inj h
    obtain rfl := Entries.eq_of_put_nil hput
    exact ⟨hd.root, hd.current.append hs, hd.target⟩
  | table key =>
    obtain ⟨path, key⟩ := key
    obtain rfl : path = [] := hplain
    obtain ⟨root, hfinish, h⟩ := Option.bind_eq_some_iff.mp h
    obtain ⟨⟨root', current⟩, hparent, h⟩ := Option.bind_eq_some_iff.mp h
    obtain rfl := Option.some.inj h
    have hroot := hd.finish hfinish
    have htake : takeTable key root = some (root', current) := hparent
    rw [takeTable] at htake
    split at htake
    · obtain ⟨rfl, rfl⟩ := Prod.mk.inj (Option.some.inj htake)
      exact ⟨hroot, List.forall_mem_nil _, .inr ⟨key, rfl, hs⟩⟩
    · -- no header has a table on its way
      next hfind => cases hroot _ (Entries.mem_of_find? hfind)
    · cases htake
  | element key => exact hplain.elim

end Draft

/-- **Where an entry of the table comes from**: from an assignment, or from a header and the
assignments of its table. -/
theorem of_mem_ofStatements {t : Table} (hplain : ∀ s ∈ statements, s.IsPlain)
    (h : ofStatements statements = some t) {key : String} {v : Value} (hmem : (key, v) ∈ t) :
    .assign ⟨[], key⟩ v ∈ statements ∨
      .table ⟨[], key⟩ ∈ statements ∧ ∃ entries, v = .table entries ∧
        ∀ e ∈ entries, .assign ⟨[], e.1⟩ e.2 ∈ statements := by
  obtain ⟨d, hfold, h⟩ := Option.bind_eq_some_iff.mp h
  obtain ⟨out, hfinish, h⟩ := Option.bind_eq_some_iff.mp h
  obtain rfl := Option.some.inj h
  have hd : d.Told statements :=
    Option.foldlM_invariant hfold ⟨List.forall_mem_nil _, List.forall_mem_nil _, .inl rfl⟩
      fun s hs d d' hd happly => hd.apply hs (hplain s hs) happly
  rw [Entries.toTable_eq_map] at hmem
  obtain ⟨⟨key, e⟩, he, heq⟩ := List.mem_map.mp hmem
  obtain ⟨rfl, rfl⟩ := Prod.mk.inj heq
  cases hd.finish hfinish _ he with
  | assign h => exact .inl h
  | header h hinner =>
    refine .inr ⟨h, _, rfl, fun e he => ?_⟩
    rw [Entries.toTable_eq_map] at he
    obtain ⟨⟨k, inner⟩, hmem, rfl⟩ := List.mem_map.mp he
    obtain ⟨v, rfl, hv⟩ := hinner _ hmem
    exact hv

end Scaffold.Toml
