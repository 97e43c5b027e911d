import Mathlib.Data.List.DropRight
import Scaffold.Proofs.Text.Lines
import Scaffold.Toml.Document

/-!
# Texts laid out line by line

Most texts are written in a plain way: a header or an assignment under a bare key to a line,
with empty lines and comments between them.  For such a text it can be told what its lines say
and which number each of them has.  The numbers are not those of the statements: an array or a
string may go on over several lines, and the line of an assignment is that of its key.

A value is whatever can be read as one, so nothing is said here about how values are written.

## Main definitions

* `IsBare`, `Remark`, `EndsLine` — bare keys, and what may stand at the end of a line.
* `Laid` — a text laid out in lines, with what they say.
* `Declares` — a line has a key in its header, or on the left of its assignment.

## Main results

* `Laid.said_of_readStatements` — **a text says nothing but what its lines say.**
* `Laid.standsBehind` — where the key of a line stands in the text.
* `Laid.mentions` — **the line of a header or an assignment mentions its key.**
-/

namespace Scaffold.Toml

open Text

/-- A key of bare characters alone. -/
structure IsBare (key : String) : Prop where
  ne_nil : key.toList ≠ []
  chars : ∀ c ∈ key.toList, isBareKeyChar c = true

instance (key : String) : Decidable (IsBare key) :=
  decidable_of_iff (key.toList ≠ [] ∧ key.toList.all isBareKeyChar = true)
    ⟨fun ⟨hne, hall⟩ => ⟨hne, List.all_eq_true.mp hall⟩,
      fun h => ⟨h.ne_nil, List.all_eq_true.mpr h.chars⟩⟩

/-- Blanks within a line. -/
def IsBlank (text : List Char) : Prop := ∀ c ∈ text, isSpace c = true

instance (text : List Char) : Decidable (IsBlank text) :=
  decidable_of_iff (text.all isSpace = true) List.all_eq_true

theorem IsBlank.nil : IsBlank [] := List.forall_mem_nil _

/-- What may stand on a line behind what it says: blanks, and a comment. -/
inductive Remark : List Char → Prop
  | blank {space : List Char} (hspace : IsBlank space) : Remark space
  | comment {space words : List Char} (hspace : IsBlank space) (hwords : '\n' ∉ words) :
    Remark (space ++ '#' :: words)

/-- A text goes on with a remark to the end of its line; the rest is on the lines behind. -/
inductive EndsLine : (text rest : List Char) → Prop
  | last {remark : List Char} (h : Remark remark) : EndsLine remark []
  | feed {remark rest : List Char} (h : Remark remark) : EndsLine (remark ++ '\n' :: rest) rest
  | carriage {remark rest : List Char} (h : Remark remark) :
    EndsLine (remark ++ '\r' :: '\n' :: rest) rest

/-- The value behind the sign of an assignment, with blanks in front of it. -/
def valueAt (text : List Char) : Option (Value × List Char) :=
  readValue (2 * (skipSpace text).length + 1) maxDepth (skipSpace text)

/-- A text whose first line has the number `n` is laid out in lines: each is a remark, a header
with a bare key or an assignment under one.  What they say is told with the number of the line.
An assignment takes as many lines as its value. -/
inductive Laid : (n : Nat) → (text : List Char) → (said : List (Nat × Statement)) → Prop
  | nil {n : Nat} : Laid n [] []
  | remark {n : Nat} {text rest : List Char} {said : List (Nat × Statement)}
    (hend : EndsLine text rest) (hrest : Laid (n + 1) rest said) : Laid n text said
  | header {n : Nat} {space left right after rest : List Char} {key : String}
    {said : List (Nat × Statement)} (hspace : IsBlank space) (hleft : IsBlank left)
    (hkey : IsBare key) (hright : IsBlank right) (hend : EndsLine after rest)
    (hrest : Laid (n + 1) rest said) :
    Laid n (space ++ '[' :: (left ++ (key.toList ++ (right ++ ']' :: after))))
      ((n, .table ⟨[], key⟩) :: said)
  | assign {n : Nat} {space right value after rest : List Char} {key : String} {v : Value}
    {said : List (Nat × Statement)} (hspace : IsBlank space) (hkey : IsBare key)
    (hright : IsBlank right) (hvalue : valueAt (value ++ after) = some (v, after))
    (hend : EndsLine after rest) (hrest : Laid (n + value.count '\n' + 1) rest said) :
    Laid n (space ++ (key.toList ++ (right ++ '=' :: (value ++ after))))
      ((n, .assign ⟨[], key⟩ v) :: said)

/-- The line of that number is a header with the key, or an assignment under it. -/
def Declares (said : List (Nat × Statement)) (n : Nat) (key : String) : Prop :=
  (n, .table ⟨[], key⟩) ∈ said ∨ ∃ v, (n, .assign ⟨[], key⟩ v) ∈ said

/-! ### Characters -/

/-- A bare character differs from every one that is not. -/
theorem ne_of_bare {c d : Char} (hc : isBareKeyChar c = true) (hd : isBareKeyChar d = false) :
    c ≠ d := by
  rintro rfl
  rw [hc] at hd
  cases hd

theorem isSpace_of_bare {c : Char} (hc : isBareKeyChar c = true) : isSpace c = false := by
  have hblank : c ≠ ' ' := ne_of_bare hc (by decide)
  have htab : c ≠ '\t' := ne_of_bare hc (by decide)
  rw [isSpace, beq_false_of_ne hblank, beq_false_of_ne htab]
  rfl

theorem not_bare_of_isSpace {c : Char} (hc : isSpace c = true) : isBareKeyChar c = false := by
  refine Bool.eq_false_iff.mpr fun hbare => ?_
  rw [isSpace_of_bare hbare] at hc
  cases hc

theorem IsBlank.feed_not_mem {space : List Char} (h : IsBlank space) : '\n' ∉ space :=
  fun hmem => absurd (h _ hmem) (by decide)

theorem IsBlank.count_feed {space : List Char} (h : IsBlank space) : space.count '\n' = 0 :=
  List.count_eq_zero_of_not_mem h.feed_not_mem

section Blanks

variable {space : List Char} (hspace : IsBlank space) (text : List Char)
include hspace

theorem skipSpace_append : skipSpace (space ++ text) = skipSpace text :=
  List.dropWhile_append_of_pos hspace

theorem skipSpace_append_cons {c : Char} (hc : isSpace c = false) :
    skipSpace (space ++ c :: text) = c :: text := by
  rw [skipSpace_append hspace, skipSpace, List.dropWhile_cons_of_neg (by rw [hc]; exact nofun)]

end Blanks

namespace IsBare

variable {key : String} (hkey : IsBare key)
include hkey

theorem not_mem {c : Char} (hc : isBareKeyChar c = false) : c ∉ key.toList :=
  fun hmem => ne_of_bare (hkey.chars c hmem) hc rfl

theorem count_feed : key.toList.count '\n' = 0 :=
  List.count_eq_zero_of_not_mem (hkey.not_mem (by decide))

/-- A bare key begins with a bare character. -/
theorem exists_cons : ∃ c more, key.toList = c :: more ∧ isBareKeyChar c = true := by
  obtain ⟨c, more, h⟩ := List.exists_cons_of_ne_nil hkey.ne_nil
  exact ⟨c, more, h, hkey.chars c (h ▸ List.mem_cons_self)⟩

theorem append_ne_cons {c : Char} (hc : isBareKeyChar c = false) (text rest : List Char) :
    key.toList ++ text ≠ c :: rest := by
  obtain ⟨d, more, hcons, hd⟩ := hkey.exists_cons
  rw [hcons]
  exact fun h => ne_of_bare hd hc (List.cons.inj h).1

theorem skipSpace_append {space : List Char} (hspace : IsBlank space) (text : List Char) :
    skipSpace (space ++ (key.toList ++ text)) = key.toList ++ text := by
  obtain ⟨c, more, hcons, hc⟩ := hkey.exists_cons
  rw [hcons]
  exact skipSpace_append_cons hspace _ (isSpace_of_bare hc)

end IsBare

/-! ### The end of a line -/

/-- The text behind its first line feed. -/
def behindFeed (text : List Char) : List Char := (text.dropWhile (· != '\n')).tail

theorem behindFeed_append {line : List Char} (h : '\n' ∉ line) (text : List Char) :
    behindFeed (line ++ text) = behindFeed text := by
  have hline : ∀ c ∈ line, (c != '\n') = true :=
    fun c hc => bne_iff_ne.mpr (ne_of_mem_of_not_mem hc h)
  rw [behindFeed, List.dropWhile_append_of_pos hline, behindFeed]

/-- Passing over characters within a line does not leave it. -/
theorem behindFeed_dropWhile {p : Char → Bool} (hp : p '\n' = false) (text : List Char) :
    behindFeed (text.dropWhile p) = behindFeed text := by
  have hfeed : '\n' ∉ text.takeWhile p := fun hmem => by
    rw [List.mem_takeWhile_imp hmem] at hp
    cases hp
  rw [← behindFeed_append hfeed, List.takeWhile_append_dropWhile]

theorem Remark.feed_not_mem {remark : List Char} (h : Remark remark) : '\n' ∉ remark := by
  cases h with
  | blank hspace => exact hspace.feed_not_mem
  | comment hspace hwords =>
    rw [List.mem_append, List.mem_cons, not_or, not_or]
    exact ⟨hspace.feed_not_mem, by decide, hwords⟩

/-- A remark alone, or with the end of its line. -/
theorem EndsLine.cases {text rest : List Char} (h : EndsLine text rest) :
    (rest = [] ∧ '\n' ∉ text) ∨ ∃ line, '\n' ∉ line ∧ text = line ++ '\n' :: rest := by
  cases h with
  | last hremark => exact .inl ⟨rfl, hremark.feed_not_mem⟩
  | @feed remark _ hremark => exact .inr ⟨remark, hremark.feed_not_mem, rfl⟩
  | @carriage remark _ hremark =>
    refine .inr ⟨remark ++ ['\r'], ?_, (List.append_cons _ _ _)⟩
    rw [List.mem_append, List.mem_singleton, not_or]
    exact ⟨hremark.feed_not_mem, by decide⟩

theorem EndsLine.behindFeed_eq {text rest : List Char} (h : EndsLine text rest) :
    behindFeed text = rest := by
  rcases h.cases with ⟨rfl, hfeed⟩ | ⟨line, hfeed, rfl⟩
  · have h := behindFeed_append hfeed []
    rwa [List.append_nil] at h
  · exact behindFeed_append hfeed _

theorem readLineEnd_skipSpace (text : List Char) :
    readLineEnd (skipSpace text) = readLineEnd text := by
  have hspace : skipSpace (skipSpace text) = skipSpace text :=
    List.dropWhile_idempotent isSpace text
  rw [readLineEnd, hspace, ← readLineEnd]

/-- What follows the end of a line is what follows its line feed. -/
theorem behindFeed_of_readLineEnd {text rest : List Char} (h : readLineEnd text = some rest) :
    behindFeed text = rest := by
  have hend (text : List Char)
      (h : (if text.isEmpty then some [] else newline? text) = some rest) :
      behindFeed text = rest := by
    split at h
    · next hempty =>
      rw [List.isEmpty_iff.mp hempty]
      exact Option.some.inj h
    · unfold newline? at h
      split at h
      · exact Option.some.inj h
      · exact Option.some.inj h
      · cases h
  rw [readLineEnd] at h
  rw [← behindFeed_dropWhile (p := isSpace) (by decide)]
  change behindFeed (skipSpace text) = rest
  split at h
  · next words hspace =>
    rw [hspace]
    change behindFeed words = rest
    rw [← behindFeed_dropWhile (p := isPlain) (by decide)]
    exact hend _ h
  · exact hend _ h

/-- A line that says nothing begins with its comment or with its end. -/
theorem EndsLine.skipSpace_cases {text rest : List Char} (h : EndsLine text rest) :
    skipSpace text = [] ∨
      ∃ c more, skipSpace text = c :: more ∧ (c = '#' ∨ c = '\n' ∨ c = '\r') := by
  have hstart {remark : List Char} (hremark : Remark remark) (more : List Char) :
      skipSpace (remark ++ more) = skipSpace more ∨
        ∃ words, skipSpace (remark ++ more) = '#' :: words := by
    cases hremark with
    | blank hspace => exact .inl (skipSpace_append hspace more)
    | comment hspace hwords =>
      rw [List.append_assoc]
      exact .inr ⟨_, skipSpace_append_cons hspace _ (by decide)⟩
  cases h with
  | last hremark =>
    rcases hstart hremark [] with h | ⟨words, h⟩ <;> rw [List.append_nil] at h
    · exact .inl h
    · exact .inr ⟨_, _, h, .inl rfl⟩
  | feed hremark =>
    rcases hstart hremark _ with h | ⟨words, h⟩
    · exact .inr ⟨_, _, h, .inr (.inl rfl)⟩
    · exact .inr ⟨_, _, h, .inl rfl⟩
  | carriage hremark =>
    rcases hstart hremark _ with h | ⟨words, h⟩
    · exact .inr ⟨_, _, h, .inr (.inr rfl)⟩
    · exact .inr ⟨_, _, h, .inl rfl⟩

/-! ### Keys -/

/-- A bare word ends at the first blank or, without blanks, at the sign. -/
theorem word_of_isBare {right : List Char} {key : String} {c : Char} (after : List Char)
    (hkey : IsBare key) (hright : IsBlank right) (hc : isBareKeyChar c = false) :
    (key.toList ++ (right ++ c :: after)).takeWhile isBareKeyChar = key.toList ∧
      (key.toList ++ (right ++ c :: after)).dropWhile isBareKeyChar = right ++ c :: after := by
  rw [List.takeWhile_append_of_pos hkey.chars, List.dropWhile_append_of_pos hkey.chars]
  have hstop (d : Char) (rest : List Char) (hd : isBareKeyChar d = false) :
      (d :: rest).takeWhile isBareKeyChar = [] ∧
        (d :: rest).dropWhile isBareKeyChar = d :: rest :=
    ⟨List.takeWhile_cons_of_neg (Bool.eq_false_iff.mp hd),
      List.dropWhile_cons_of_neg (Bool.eq_false_iff.mp hd)⟩
  cases right with
  | nil =>
    obtain ⟨htake, hdrop⟩ := hstop c after hc
    exact ⟨by rw [List.nil_append, htake, List.append_nil], hdrop⟩
  | cons d right =>
    obtain ⟨htake, hdrop⟩ := hstop d (right ++ c :: after)
      (not_bare_of_isSpace (hright d List.mem_cons_self))
    exact ⟨by rw [List.cons_append, htake, List.append_nil], hdrop⟩

theorem readKeyPart_of_isBare {right : List Char} {key : String} {c : Char} (after : List Char)
    (hkey : IsBare key) (hright : IsBlank right) (hc : isBareKeyChar c = false) :
    readKeyPart (key.toList ++ (right ++ c :: after)) = some (key, right ++ c :: after) := by
  obtain ⟨htake, hdrop⟩ := word_of_isBare after hkey hright hc
  unfold readKeyPart
  split
  · next h => exact absurd h (hkey.append_ne_cons (by decide) _ _)
  · next h => exact absurd h (hkey.append_ne_cons (by decide) _ _)
  · rw [htake, hdrop, if_neg (by simpa using hkey.ne_nil), String.ofList_toList]

/-- **A bare key is read up to the sign behind it**, with the blanks around it. -/
theorem readKey_of_isBare {left right : List Char} {key : String} {c : Char} (after : List Char)
    (hleft : IsBlank left) (hkey : IsBare key) (hright : IsBlank right)
    (hc : isBareKeyChar c = false) (hspace : isSpace c = false) (hdot : c ≠ '.') :
    readKey (left ++ (key.toList ++ (right ++ c :: after))) = some (⟨[], key⟩, c :: after) := by
  rw [readKey, readKeyParts, hkey.skipSpace_append hleft,
    readKeyPart_of_isBare after hkey hright hc]
  simp only [Option.bind_eq_bind, Option.bind_some, skipSpace_append_cons hright after hspace]
  split
  · next h => exact absurd (List.cons.inj h).1 hdot
  · rfl

/-! ### Lines -/

/-- A line that begins with a key is no end of a line. -/
theorem readLineEnd_of_isBare {key : String} (hkey : IsBare key) (text : List Char) :
    readLineEnd (key.toList ++ text) = none := by
  have hspace := hkey.skipSpace_append .nil text
  rw [List.nil_append] at hspace
  have hnewline : newline? (key.toList ++ text) = none := by
    unfold newline?
    split
    · next h => exact absurd h (hkey.append_ne_cons (by decide) _ _)
    · next h => exact absurd h (hkey.append_ne_cons (by decide) _ _)
    · rfl
  rw [readLineEnd, hspace]
  split
  · next h => exact absurd h (hkey.append_ne_cons (by decide) _ _)
  · rw [hnewline, if_neg]
    rw [List.isEmpty_iff, List.append_eq_nil_iff]
    exact fun h => hkey.ne_nil h.1

/-- A line that says nothing is read as nothing: no key begins like it. -/
theorem readStatement_of_remark {text rest : List Char} {s : Statement}
    (htext : text = [] ∨ ∃ c more, text = c :: more ∧ (c = '#' ∨ c = '\n' ∨ c = '\r'))
    (h : readStatement text = some (s, rest)) : s = .empty ∧ readLineEnd text = some rest := by
  rcases htext with rfl | ⟨c, more, rfl, hc⟩
  · obtain ⟨rfl, rfl⟩ := Prod.mk.inj (Option.some.inj h)
    exact ⟨rfl, rfl⟩
  have hkey : readKey (c :: more) = none := by
    rcases hc with rfl | rfl | rfl <;> rfl
  have hbracket : c ≠ '[' := by rcases hc with rfl | rfl | rfl <;> decide
  unfold readStatement at h
  split at h
  · next htext => exact absurd (List.cons.inj htext).1 hbracket
  · next htext => exact absurd (List.cons.inj htext).1 hbracket
  · split at h
    · next hend =>
      obtain ⟨rfl, rfl⟩ := Prod.mk.inj (Option.some.inj h)
      exact ⟨rfl, hend⟩
    · rw [hkey] at h
      cases h

theorem readStatement_header {left right after rest : List Char} {key : String} {s : Statement}
    (hleft : IsBlank left) (hkey : IsBare key) (hright : IsBlank right)
    (h : readStatement ('[' :: (left ++ (key.toList ++ (right ++ ']' :: after)))) =
      some (s, rest)) :
    s = .table ⟨[], key⟩ ∧ readLineEnd after = some rest := by
  have hread := readKey_of_isBare after hleft hkey hright (c := ']') (by decide) (by decide)
    (by decide)
  unfold readStatement at h
  split at h
  · -- a second bracket would have to stand among the blanks or in the key
    next htext =>
    have htext := (List.cons.inj htext).2
    cases left with
    | nil => exact absurd htext (hkey.append_ne_cons (by decide) _ _)
    | cons b left =>
      have hb := hleft b List.mem_cons_self
      rw [(List.cons.inj htext).1] at hb
      exact absurd hb (by decide)
  · next htext =>
    rw [← (List.cons.inj htext).2, hread] at h
    change (readLineEnd after).bind (fun rest =>
      some (Statement.table ⟨[], key⟩, rest)) = _ at h
    obtain ⟨rest, hend, h⟩ := Option.bind_eq_some_iff.mp h
    obtain ⟨rfl, rfl⟩ := Prod.mk.inj (Option.some.inj h)
    exact ⟨rfl, hend⟩
  · next hheader => exact absurd rfl (hheader _)

theorem readStatement_assign {right value after rest : List Char} {key : String} {s : Statement}
    {v : Value} (hkey : IsBare key) (hright : IsBlank right)
    (hvalue : valueAt (value ++ after) = some (v, after))
    (h : readStatement (key.toList ++ (right ++ '=' :: (value ++ after))) = some (s, rest)) :
    s = .assign ⟨[], key⟩ v ∧ readLineEnd after = some rest := by
  have hread := readKey_of_isBare (value ++ after) .nil hkey hright (c := '=') (by decide)
    (by decide) (by decide)
  rw [List.nil_append] at hread
  unfold readStatement at h
  split at h
  · next htext => exact absurd htext (hkey.append_ne_cons (by decide) _ _)
  · next htext => exact absurd htext (hkey.append_ne_cons (by decide) _ _)
  · split at h
    · next hend =>
      rw [readLineEnd_of_isBare hkey] at hend
      cases hend
    · rw [hread] at h
      change (valueAt (value ++ after)).bind (fun read =>
        (readLineEnd read.2).bind fun rest =>
          some (Statement.assign ⟨[], key⟩ read.1, rest)) = _ at h
      rw [hvalue, Option.bind_some] at h
      obtain ⟨rest, hend, h⟩ := Option.bind_eq_some_iff.mp h
      obtain ⟨rfl, rfl⟩ := Prod.mk.inj (Option.some.inj h)
      exact ⟨rfl, hend⟩

/-- Statements are read one by one, until only blanks are left. -/
theorem readStatements_cases {fuel : Nat} {text : List Char} {statements : List Statement}
    (h : readStatements fuel text = some statements) :
    (skipSpace text = [] ∧ statements = []) ∨
      ∃ fuel' s rest others, readStatement (skipSpace text) = some (s, rest) ∧
        readStatements fuel' rest = some others ∧ statements = s :: others := by
  cases fuel with
  | zero => cases h
  | succ fuel =>
    rw [readStatements] at h
    split at h
    · next hspace => exact .inl ⟨hspace, (Option.some.inj h).symm⟩
    · obtain ⟨⟨s, rest⟩, hs, h⟩ := Option.bind_eq_some_iff.mp h
      obtain ⟨others, hothers, h⟩ := Option.bind_eq_some_iff.mp h
      exact .inr ⟨fuel, s, rest, others, hs, hothers, (Option.some.inj h).symm⟩

/-- What holds of the statement of a line and of all statements behind it holds of all. -/
private theorem forall_of_line {P : Statement → Prop} {text after rest : List Char} {t : Statement}
    (hend : EndsLine after rest) (ht : P t)
    (hline : ∀ s next, readStatement (skipSpace text) = some (s, next) →
      s = t ∧ readLineEnd after = some next)
    (hrest : ∀ fuel statements, readStatements fuel rest = some statements →
      ∀ s ∈ statements, P s)
    {fuel : Nat} {statements : List Statement}
    (hread : readStatements fuel text = some statements) : ∀ s ∈ statements, P s := by
  rcases readStatements_cases hread with ⟨-, rfl⟩ | ⟨fuel', s, next, others, hs, hothers, rfl⟩
  · exact List.forall_mem_nil _
  · obtain ⟨rfl, hnext⟩ := hline s next hs
    obtain rfl := (behindFeed_of_readLineEnd hnext).symm.trans hend.behindFeed_eq
    exact List.forall_mem_cons.mpr ⟨ht, hrest fuel' others hothers⟩

/-- **A text says nothing but what its lines say**, by induction on the lines. -/
theorem Laid.said_of_readStatements {n : Nat} {text : List Char} {said : List (Nat × Statement)}
    (h : Laid n text said) {fuel : Nat} {statements : List Statement}
    (hread : readStatements fuel text = some statements) :
    ∀ s ∈ statements, s = .empty ∨ ∃ m, (m, s) ∈ said := by
  have more (n : Nat) (t : Statement) {said : List (Nat × Statement)} {s : Statement}
      (h : s = .empty ∨ ∃ m, (m, s) ∈ said) : s = .empty ∨ ∃ m, (m, s) ∈ (n, t) :: said :=
    h.imp_right fun ⟨m, hm⟩ => ⟨m, List.mem_cons_of_mem _ hm⟩
  induction h generalizing fuel statements with
  | nil =>
    cases fuel with
    | zero => cases hread
    | succ fuel =>
      obtain rfl := Option.some.inj hread
      exact List.forall_mem_nil _
  | remark hend hrest ih =>
    refine forall_of_line hend (.inl rfl) (fun s rest hs => ?_) (fun _ _ h => ih h) hread
    rw [← readLineEnd_skipSpace]
    exact readStatement_of_remark hend.skipSpace_cases hs
  | @header n space left right after rest key said hspace hleft hkey hright hend hrest ih =>
    refine forall_of_line hend (.inr ⟨n, List.mem_cons_self⟩) (fun s rest hs => ?_)
      (fun _ _ h s hs => more n _ (ih h s hs)) hread
    rw [skipSpace_append_cons hspace _ (by decide)] at hs
    exact readStatement_header hleft hkey hright hs
  | @assign n space right value after rest key v said hspace hkey hright hvalue hend hrest ih =>
    refine forall_of_line hend (.inr ⟨n, List.mem_cons_self⟩) (fun s rest hs => ?_)
      (fun _ _ h s hs => more n _ (ih h s hs)) hread
    rw [hkey.skipSpace_append hspace] at hs
    exact readStatement_assign hkey hright hvalue hs

/-! ### Where the keys stand -/

theorem declares_cons_iff {n m : Nat} {s : Statement} {said : List (Nat × Statement)}
    {key : String} :
    Declares ((n, s) :: said) m key ↔
      (m = n ∧ (s = .table ⟨[], key⟩ ∨ ∃ v, s = .assign ⟨[], key⟩ v)) ∨ Declares said m key := by
  simp only [Declares, List.mem_cons, Prod.mk.injEq, exists_or, exists_and_left]
  tauto

/-- A word behind a line stands behind the line feeds of the line and the one that ends it. -/
theorem EndsLine.standsBehind {feeds : Nat} {word after rest : List Char}
    (hend : EndsLine after rest) (hne : word ≠ []) (h : StandsBehind feeds word rest)
    (front : List Char) :
    StandsBehind (front.count '\n' + 1 + feeds) word (front ++ after) := by
  rcases hend.cases with ⟨rfl, -⟩ | ⟨line, hfeed, rfl⟩
  · obtain ⟨before, behind, hnil, -⟩ := h
    have hword := (List.append_eq_nil_iff.mp (List.append_eq_nil_iff.mp hnil.symm).2).1
    exact absurd hword hne
  · have hcount : (front ++ line ++ ['\n']).count '\n' = front.count '\n' + 1 := by
      rw [List.count_append, List.count_append, List.count_eq_zero_of_not_mem hfeed]
      rfl
    have hstands := h.append (front ++ line ++ ['\n'])
    rwa [hcount, List.append_assoc, List.append_assoc, List.singleton_append] at hstands

/-- **Where the key of a line stands**: behind as many line feeds as the lines in front have. -/
theorem Laid.standsBehind {n m : Nat} {text : List Char} {said : List (Nat × Statement)}
    {key : String} (h : Laid n text said) (hkey : Declares said m key) :
    IsBare key ∧ ∃ feeds, m = n + feeds ∧ StandsBehind feeds key.toList text := by
  induction h with
  | nil =>
    rcases hkey with h | ⟨v, h⟩
    · cases h
    · cases h
  | remark hend hrest ih =>
    obtain ⟨hbare, feeds, rfl, hstands⟩ := ih hkey
    have hstands := hend.standsBehind hbare.ne_nil hstands []
    exact ⟨hbare, _, by rw [List.count_nil]; omega, hstands⟩
  | @header n space left right after rest name said hspace hleft hname hright hend hrest ih =>
    rcases declares_cons_iff.mp hkey with ⟨rfl, h | ⟨v, h⟩⟩ | h
    · cases h
      -- the header names the key itself, with no line feed in front of it
      refine ⟨hname, 0, rfl, space ++ '[' :: left, right ++ ']' :: after, by simp, ?_⟩
      simp [hspace.count_feed, hleft.count_feed]
    · cases h
    · obtain ⟨hbare, feeds, rfl, hstands⟩ := ih h
      have hstands := hend.standsBehind hbare.ne_nil hstands
        (space ++ '[' :: (left ++ (name.toList ++ (right ++ [']']))))
      refine ⟨hbare, 1 + feeds, by omega, ?_⟩
      simpa [hspace.count_feed, hleft.count_feed, hname.count_feed, hright.count_feed] using hstands
  | @assign n space right value after rest name v said hspace hname hright hvalue hend hrest ih =>
    rcases declares_cons_iff.mp hkey with ⟨rfl, h | ⟨v, h⟩⟩ | h
    · cases h
    · cases h
      exact ⟨hname, 0, rfl, space, right ++ '=' :: (value ++ after), rfl, hspace.count_feed⟩
    · obtain ⟨hbare, feeds, rfl, hstands⟩ := ih h
      have hstands := hend.standsBehind hbare.ne_nil hstands
        (space ++ (name.toList ++ (right ++ '=' :: value)))
      -- a value may go over several lines
      refine ⟨hbare, value.count '\n' + 1 + feeds, by omega, ?_⟩
      simpa [hspace.count_feed, hname.count_feed, hright.count_feed] using hstands

/-- A byte order mark ends no line. -/
theorem exists_dropByteOrderMark (text : List Char) :
    ∃ front, front.count '\n' = 0 ∧ text = front ++ dropByteOrderMark text := by
  unfold dropByteOrderMark
  split
  · next c rest =>
    split
    · next hmark =>
      refine ⟨[c], List.count_eq_zero_of_not_mem fun hmem => ?_, rfl⟩
      rw [← List.mem_singleton.mp hmem] at hmark
      exact absurd hmark (by decide)
    · exact ⟨[], rfl, rfl⟩
  · exact ⟨[], rfl, rfl⟩

/-- **The line of a header or an assignment mentions its key.** -/
theorem Laid.mentions {n : Nat} {text key : String} {said : List (Nat × Statement)}
    (hlaid : Laid 1 (dropByteOrderMark text.toList) said) (h : Declares said n key) :
    Mentions text n key := by
  obtain ⟨hbare, feeds, rfl, hstands⟩ := hlaid.standsBehind h
  obtain ⟨front, hcount, htext⟩ := exists_dropByteOrderMark text.toList
  have hstands := hstands.append front
  rw [hcount, Nat.zero_add, ← htext] at hstands
  rw [Nat.add_comm]
  exact hstands.mentions hbare.ne_nil (hbare.not_mem (by decide)) (hbare.not_mem (by decide))

end Scaffold.Toml
