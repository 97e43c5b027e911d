import Mathlib.Algebra.Group.Nat.Even
import Mathlib.Data.List.DropRight
import Scaffold.Proofs.Spec.Reader
import Scaffold.Source.Parameter

/-!
# External types

An argument may name a type from outside the generated sources, with its namespace.  The
parameter goes by the last part of that text, and the full name is imported, so the last
part of the import had better be the name in the signature.  The two are cut by different
rules: a single colon ends a part of the type, but it takes two in a row to make the
backslash that parts namespaces.  Colons are paired from the left, so it comes down to how
many of them stand side by side right before the last part: a colon that is left over stays
in front of that part in the import, and the signature drops it.

## Main definitions

* `lastName` — a full name without its namespace.
* `colonsBefore` — the colons right before the last part of a type.

## Main results

* `withBackslashes_append`, `withBackslashes_replicate` — colons are paired from the left.
* `rtakeWhile_withBackslashes_iff` — when the last part comes through.
* `lastName_importName_iff` — **which imports bring the type of their signature.**
-/

namespace Scaffold

/-- A full name without its namespace: what stands behind the last backslash. -/
def lastName (full : String) : String := .ofList (full.toList.rtakeWhile (· != '\\'))

/-- A character that a part of a type may hold. -/
def isPartChar (c : Char) : Bool := c != '\\' && c != '/' && c != ':'

/-- The colons that stand side by side right before the last part of a type. -/
def colonsBefore (typeName : String) : Nat :=
  ((typeName.toList.rdropWhile isPartChar).rtakeWhile (· == ':')).length

/-! ### Both ends of a list -/

section Ends

variable {p : Char → Bool} {front back : List Char} {c : Char}

/-- What may be taken is taken with what can be taken in front of it. -/
private theorem rtakeWhile_append (hback : ∀ x ∈ back, p x = true) :
    (front ++ back).rtakeWhile p = front.rtakeWhile p ++ back := by
  rw [List.rtakeWhile, List.reverse_append,
    List.takeWhile_append_of_pos fun x hx => hback x (List.mem_reverse.mp hx), List.reverse_append,
    List.reverse_reverse]
  rfl

/-- A first character that may not be taken does not count at the end. -/
private theorem rtakeWhile_cons_of_neg (hc : p c = false) :
    (c :: back).rtakeWhile p = back.rtakeWhile p := by
  induction back using List.reverseRecOn with
  | nil => exact List.rtakeWhile_concat_neg p [] c (by simp [hc])
  | append_singleton back x ih =>
    rw [← List.cons_append, List.rtakeWhile_concat, List.rtakeWhile_concat, ih]

end Ends

/-! ### Backslashes for colons and slashes -/

section Backslashes

variable {front back cs : List Char}

/-- A text may be cut anywhere but between two colons. -/
theorem withBackslashes_append (h : front.getLast? ≠ some ':' ∨ back.head? ≠ some ':') :
    withBackslashes (front ++ back) = withBackslashes front ++ withBackslashes back := by
  induction front using withBackslashes.induct with
  | case1 rest ih =>
    have hrest : rest.getLast? ≠ some ':' ∨ back.head? ≠ some ':' := by
      refine h.imp_left fun hlast hrest => hlast ?_
      rw [List.getLast?_cons, List.getLast?_cons, hrest]
      rfl
    exact congrArg ('\\' :: ·) (ih hrest)
  | case2 rest ih =>
    have hrest : rest.getLast? ≠ some ':' ∨ back.head? ≠ some ':' := by
      refine h.imp_left fun hlast hrest => hlast ?_
      rw [List.getLast?_cons, hrest]
      rfl
    exact congrArg ('\\' :: ·) (ih hrest)
  | case3 c rest hcolons hslash ih =>
    have hrest : rest.getLast? ≠ some ':' ∨ back.head? ≠ some ':' := by
      refine h.imp_left fun hlast hrest => hlast ?_
      rw [List.getLast?_cons, hrest]
      rfl
    rw [List.cons_append, withBackslashes.eq_3 c rest hcolons hslash,
      withBackslashes.eq_3 c (rest ++ back) ?_ hslash, ih hrest, List.cons_append]
    -- a colon at the end would be parted from the one behind it
    rintro after rfl hafter
    cases rest with
    | nil =>
      rcases h with hlast | hhead
      · exact hlast rfl
      · exact hhead (by rw [← List.nil_append back, hafter]; rfl)
    | cons d rest =>
      obtain ⟨rfl, -⟩ := List.cons.inj hafter
      exact hcolons rest rfl rfl
  | case4 => rfl

theorem withBackslashes_of_isPartChar (h : ∀ c ∈ cs, isPartChar c = true) :
    withBackslashes cs = cs := by
  induction cs with
  | nil => rfl
  | cons c cs ih =>
    obtain ⟨hc, hcs⟩ := List.forall_mem_cons.mp h
    rw [withBackslashes.eq_3, ih hcs]
    · rintro rest rfl
      cases hc
    · rintro rfl
      cases hc

/-- **Colons are taken two by two**, and one may be left over. -/
theorem withBackslashes_replicate (n : Nat) :
    withBackslashes (.replicate n ':') = .replicate (n / 2) '\\' ++ .replicate (n % 2) ':' := by
  match n with
  | 0 => rfl
  | 1 => rfl
  | n + 2 =>
    have hdiv : (n + 2) / 2 = n / 2 + 1 := by omega
    have hmod : (n + 2) % 2 = n % 2 := by omega
    rw [hdiv, hmod, List.replicate_succ (n := n / 2), List.cons_append,
      ← withBackslashes_replicate n]
    rfl

/-- Two colons in a row leave a backslash, wherever the pairs start. -/
theorem backslash_mem_withBackslashes (h : '\\' ∈ cs ∨ [':', ':'] <:+: cs) :
    '\\' ∈ withBackslashes cs := by
  induction cs using withBackslashes.induct with
  | case1 rest => exact List.mem_cons_self
  | case2 rest => exact List.mem_cons_self
  | case3 c rest hcolons hslash ih =>
    rw [withBackslashes.eq_3 c rest hcolons hslash, List.mem_cons]
    rcases h with hmem | hinfix
    · exact (List.mem_cons.mp hmem).imp_right fun hrest => ih (.inl hrest)
    · refine .inr (ih (.inr ?_))
      rcases List.infix_cons_iff.mp hinfix with ⟨after, hafter⟩ | hrest
      · obtain ⟨rfl, hrest⟩ := List.cons.inj hafter
        exact absurd hrest.symm fun heq => hcolons after rfl heq
      · exact hrest
  | case4 =>
    rcases h with hmem | hinfix
    · exact absurd hmem List.not_mem_nil
    · exact absurd (List.infix_nil.mp hinfix) (List.cons_ne_nil _ _)

/-- What ends with a slash ends with a backslash then, and so does what ended with one. -/
private theorem withBackslashes_concat {c : Char} (h : c = '\\' ∨ c = '/') :
    withBackslashes (front ++ [c]) = withBackslashes front ++ ['\\'] := by
  rw [withBackslashes_append (.inr ?_)]
  · rcases h with rfl | rfl <;> rfl
  · rcases h with rfl | rfl <;> decide

/-- **A text that ends with the end of a part** ends with a backslash then, or with nothing at
all, exactly if its last colons come in pairs. -/
private theorem rtakeWhile_withBackslashes_eq_nil_iff
    (hfront : ∀ hne : front ≠ [], isPartChar (front.getLast hne) = false) :
    (withBackslashes front).rtakeWhile (· != '\\') = []
      ↔ Even (front.rtakeWhile (· == ':')).length := by
  generalize hn : (front.rtakeWhile (· == ':')).length = n
  have hcolons : front.rtakeWhile (· == ':') = .replicate n ':' := by
    refine List.eq_replicate_iff.mpr ⟨hn, fun c hc => ?_⟩
    have hcolon := List.mem_rtakeWhile_imp hc
    exact beq_iff_eq.mp hcolon
  have hsplit : front.rdropWhile (· == ':') ++ .replicate n ':' = front :=
    hcolons ▸ List.rdropWhile_append_rtakeWhile
  have hstem : (front.rdropWhile (· == ':')).getLast? ≠ some ':' := by
    intro hlast
    have hne : front.rdropWhile (· == ':') ≠ [] := by
      intro hnil
      rw [hnil] at hlast
      cases hlast
    rw [List.getLast?_eq_some_getLast hne, Option.some.injEq] at hlast
    exact List.rdropWhile_last_not _ front hne (beq_iff_eq.mpr hlast)
  generalize front.rdropWhile (· == ':') = stem at hsplit hstem
  subst hsplit
  rw [withBackslashes_append (.inl hstem), withBackslashes_replicate, Nat.even_iff,
    ← List.append_assoc]
  rcases Nat.mod_two_eq_zero_or_one n with heven | hodd
  · rw [heven, List.replicate_zero, List.append_nil]
    refine iff_of_true ?_ rfl
    cases hhalf : n / 2 with
    | zero =>
      -- no colons at all, so the separator is at the end
      obtain rfl : n = 0 := by omega
      rw [List.replicate_zero, List.append_nil]
      induction stem using List.reverseRecOn with
      | nil => rfl
      | append_singleton stem c =>
        have hc := hfront (by simp)
        simp only [List.replicate_zero, List.append_nil, List.getLast_append_singleton] at hc
        rw [List.getLast?_concat, ne_eq, Option.some.injEq] at hstem
        rw [withBackslashes_concat, List.rtakeWhile_concat_neg _ _ _ (by decide)]
        simpa [isPartChar, or_iff_not_imp_left, hstem] using hc
    | succ half =>
      rw [List.replicate_succ', ← List.append_assoc,
        List.rtakeWhile_concat_neg _ _ _ (by decide)]
  · rw [hodd, List.replicate_one, List.rtakeWhile_concat_pos _ _ _ (by decide)]
    exact iff_of_false (by simp) (by decide)

/-- Backslashes at the start are in front of the last part, whatever follows them. -/
private theorem rtakeWhile_dropBackslashes (cs : List Char) :
    (dropBackslashes cs).rtakeWhile (· != '\\') = cs.rtakeWhile (· != '\\') := by
  unfold dropBackslashes
  induction cs with
  | nil => rfl
  | cons c cs ih =>
    by_cases hc : c = '\\'
    · rw [List.dropWhile_cons_of_pos (by simpa using hc), ih,
        rtakeWhile_cons_of_neg (by simp [hc])]
    · rw [List.dropWhile_cons_of_neg (by simpa using hc)]

/-- **The last part comes through** exactly if the colons in front of it come in pairs. -/
theorem rtakeWhile_withBackslashes_iff :
    (withBackslashes cs).rtakeWhile (· != '\\') = cs.rtakeWhile isPartChar
      ↔ Even ((cs.rdropWhile isPartChar).rtakeWhile (· == ':')).length := by
  have hpart : ∀ c ∈ cs.rtakeWhile isPartChar, isPartChar c = true :=
    fun _ => List.mem_rtakeWhile_imp
  have hfront : ∀ hne : cs.rdropWhile isPartChar ≠ [],
      isPartChar ((cs.rdropWhile isPartChar).getLast hne) = false :=
    fun hne => Bool.eq_false_iff.mpr (List.rdropWhile_last_not _ cs hne)
  have hsplit : cs.rdropWhile isPartChar ++ cs.rtakeWhile isPartChar = cs :=
    List.rdropWhile_append_rtakeWhile
  generalize cs.rdropWhile isPartChar = front at hfront hsplit ⊢
  generalize cs.rtakeWhile isPartChar = short at hpart hsplit ⊢
  have hhead : short.head? ≠ some ':' := by
    intro hcolon
    exact absurd (hpart _ (List.mem_of_mem_head? hcolon)) (by decide)
  rw [← hsplit, withBackslashes_append (.inr hhead), withBackslashes_of_isPartChar hpart,
    rtakeWhile_append, List.append_left_eq_self, rtakeWhile_withBackslashes_eq_nil_iff hfront]
  intro c hc
  have hchar := hpart c hc
  simp only [isPartChar, Bool.and_eq_true] at hchar
  exact hchar.1.1

end Backslashes

/-! ### Imports -/

/-- A type of another namespace is imported. -/
theorem externalImport?_of_namesExternal {s : String} (h : Node.NamesExternal s) :
    externalImport? s = some (.ofList (dropBackslashes (withBackslashes s.toList))) := by
  have hne : withBackslashes s.toList ≠ (lastSegment s).toList := by
    intro heq
    have hmem := backslash_mem_withBackslashes h
    rw [heq, lastSegment, String.toList_ofList, List.mem_reverse] at hmem
    exact absurd (List.mem_takeWhile_imp hmem) (by decide)
  unfold externalImport?
  dsimp only
  rw [beq_eq_false_iff_ne.mpr hne, if_neg Bool.false_ne_true]

/-- **Which imports bring the type of their signature**: every argument that is read as an
external type is imported, and what stands behind the last backslash of the import is the name
of the type exactly if the colons right before the last part of its text come in pairs. -/
theorem lastName_importName_iff {owner : ArtifactType} {artifact s : String}
    (h : Argument.ofNode owner artifact (.string s) = .ok (.external s)) (scope : Scope) :
    ∃ full, (Parameter.ofArgument scope (.external s)).importName = some full ∧
      (lastName full = (Parameter.ofArgument scope (.external s)).typeName
        ↔ Even (colonsBefore s)) := by
  have hexternal : Node.NamesExternal s := by
    rcases Argument.ofNode_eq_ok_iff.mp h with hs | _
    exact hs
  refine ⟨_, externalImport?_of_namesExternal hexternal, ?_⟩
  have htype : (Parameter.ofArgument scope (.external s)).typeName
      = .ofList (s.toList.rtakeWhile isPartChar) := rfl
  rw [htype, lastName, String.ofList_inj, String.toList_ofList, rtakeWhile_dropBackslashes,
    rtakeWhile_withBackslashes_iff, colonsBefore]

/-- Two pairs of colons, and a type in the root namespace of another package. -/
theorem lastName_importName_eventStore :
    Argument.ofNode .saga "refund" (.string "/Broadway::::EventStore")
        = .ok (.external "/Broadway::::EventStore") ∧
      ∃ full,
        (Parameter.ofArgument ⟨"App", "User"⟩ (.external "/Broadway::::EventStore")).importName
          = some full ∧
        lastName full = "EventStore" := by
  have hread : Argument.ofNode .saga "refund" (.string "/Broadway::::EventStore")
      = .ok (.external "/Broadway::::EventStore") := by decide +kernel
  obtain ⟨full, hfull, hiff⟩ := lastName_importName_iff hread ⟨"App", "User"⟩
  exact ⟨hread, full, hfull, hiff.mpr (by decide +kernel)⟩

/-- A single colon before the last part stays in the import, where the signature drops it. -/
theorem exists_importName_not_typeName :
    ∃ (s full : String) (scope : Scope),
      Argument.ofNode .saga "refund" (.string s) = .ok (.external s) ∧
      (Parameter.ofArgument scope (.external s)).importName = some full ∧
      lastName full ≠ (Parameter.ofArgument scope (.external s)).typeName := by
  refine ⟨"Acme\\Bus:Event", "Acme\\Bus:Event", ⟨"App", "User"⟩, ?_, ?_, ?_⟩
  · decide +kernel
  · decide +kernel
  · decide +kernel

end Scaffold
