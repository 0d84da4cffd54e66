import Provenance.Dataset.Registry
import Provenance.Proofs.Dictionary
import Provenance.Proofs.Text.Characters

/-!
# Families of schemes

The standard registry knows three families of schemes, each with a naming rule of its own: local
files, systems that are told apart by an authority, and databases (`NamingRegistry.Family`).  A
scheme belongs to a family if it is one of the family's schemes, or begins with one of them and a
colon (`Family.Covers`).  Since no scheme of a family has a colon in it, and no two families share
one, a scheme belongs to one family at most, and its rule is that of its family
(`rule?_standard_eq_some_iff`).
-/

namespace Provenance.NamingRegistry

/-! ## Looking rules up -/

/-- A rule is found under the scheme for which it has been registered, in small letters. -/
lemma get?_register (r : NamingRegistry) (scheme : String) (rule : NamingRule) (k : String) :
    (r.register scheme rule).rules.get? k =
      if String.ofList (scheme.toList.map Char.toLower) = k then some rule
      else r.rules.get? k :=
  r.rules.get?_insert k _ rule

/-- Several schemes are registered with one rule. -/
lemma get?_foldl_register {schemes : List String} (rule : NamingRule)
    (h : ∀ s ∈ schemes, String.ofList (s.toList.map Char.toLower) = s) (r : NamingRegistry)
    (k : String) : (schemes.foldl (fun r s => r.register s rule) r).rules.get? k =
      if k ∈ schemes then some rule else r.rules.get? k := by
  induction schemes generalizing r with
  | nil => simp
  | cons s schemes ih =>
      obtain ⟨hs, hschemes⟩ := List.forall_mem_cons.1 h
      rw [List.foldl_cons, ih hschemes, get?_register, hs]
      by_cases hk : k ∈ schemes
      · simp [hk]
      · simp [hk, eq_comm]

/-- The part in front of the first colon of a scheme. -/
lemma family?_eq_some_iff {scheme family : String} :
    family? scheme = some family ↔
      ':' ∉ family.toList ∧ ∃ rest, scheme = family ++ ":" ++ rest := by
  constructor
  · intro h
    unfold family? at h
    split at h
    · rename_i front c rest hspan
      obtain rfl := Option.some.inj h
      obtain ⟨hsplit, hfront, hc⟩ := Text.of_span_eq_cons hspan
      have hcolon : c = ':' := by simpa using hc
      refine ⟨fun hmem => ?_, String.ofList rest, ?_⟩
      · rw [String.toList_ofList] at hmem
        simpa using hfront ':' hmem
      · rw [← String.toList_inj, hsplit, hcolon]
        simp
    · cases h
  · rintro ⟨hcolon, rest, rfl⟩
    have hspan : (family ++ ":" ++ rest).toList.span (· ≠ ':') =
        (family.toList, ':' :: rest.toList) := by
      have hsplit : (family ++ ":" ++ rest).toList = family.toList ++ ':' :: rest.toList := by simp
      rw [hsplit]
      refine Text.span_append (fun c hc => ?_) (by simp)
      have hne : c ≠ ':' := fun heq => hcolon (heq ▸ hc)
      simpa using hne
    simp only [family?, hspan, String.ofList_toList]

/-! ## Families -/

/-- A group of schemes with one naming rule. -/
inductive Family where
  | files
  | systems
  | databases
  deriving DecidableEq

namespace Family

/-- The schemes by which a family is known. -/
def schemes : Family → List String
  | files => ["file"]
  | systems => ["hdfs", "webhdfs", "viewfs", "s3", "s3a", "s3n", "gs", "wasb", "wasbs", "abfs",
      "abfss"]
  | databases => ["jdbc"]

/-- The naming rule of a family. -/
def rule : Family → NamingRule
  | files => .localFile
  | systems => .byAuthority
  | databases => .database

/-- The scheme belongs to the family, as one of its schemes or behind one of them. -/
def Covers (f : Family) (scheme : String) : Prop :=
  ∃ s ∈ f.schemes, scheme = s ∨ ∃ rest, scheme = s ++ ":" ++ rest

/-- No scheme of a family has a colon in it. -/
lemma colon_notMem {f : Family} {s : String} (h : s ∈ f.schemes) : ':' ∉ s.toList := by
  have hall : ∀ s ∈ f.schemes, ':' ∉ s.toList := by cases f <;> decide
  exact hall s h

lemma eq_of_mem_schemes {f g : Family} {s : String} (hf : s ∈ f.schemes) (hg : s ∈ g.schemes) :
    f = g := by
  have hall : ∀ s ∈ f.schemes, s ∈ g.schemes → f = g := by cases f <;> cases g <;> decide
  exact hall s hf hg

end Family

/-- The rules that are registered as a standard are those of the families. -/
lemma get?_standard_eq_some_iff {k : String} {rule : NamingRule} :
    standard.rules.get? k = some rule ↔ ∃ f : Family, k ∈ f.schemes ∧ rule = f.rule := by
  have hsmall : ∀ s ∈ authoritySchemes, String.ofList (s.toList.map Char.toLower) = s := by decide
  have hjdbc : String.ofList ("jdbc".toList.map Char.toLower) = "jdbc" := by decide
  have hfile : String.ofList ("file".toList.map Char.toLower) = "file" := by decide
  have hget : standard.rules.get? k = if k = "jdbc" then some NamingRule.database
      else if k ∈ authoritySchemes then some NamingRule.byAuthority
      else if k = "file" then some NamingRule.localFile else none := by
    rw [standard, get?_register, get?_foldl_register _ hsmall, get?_register, hjdbc, hfile]
    simp only [eq_comm]
    rfl
  rw [hget]
  constructor
  · intro h
    split at h
    · rename_i hk
      exact ⟨.databases, by simp [Family.schemes, hk], (Option.some.inj h).symm⟩
    split at h
    · rename_i hk
      exact ⟨.systems, hk, (Option.some.inj h).symm⟩
    split at h
    · rename_i hk
      exact ⟨.files, by simp [Family.schemes, hk], (Option.some.inj h).symm⟩
    · cases h
  · rintro ⟨f, hk, rfl⟩
    cases f with
    | files =>
        obtain rfl : k = "file" := by simpa [Family.schemes] using hk
        rfl
    | systems =>
        have hk' : k ∈ authoritySchemes := hk
        have hne : k ≠ "jdbc" := fun heq => by
          rw [heq] at hk'
          exact absurd hk' (by decide)
        rw [if_neg hne, if_pos hk']
        rfl
    | databases =>
        obtain rfl : k = "jdbc" := by simpa [Family.schemes] using hk
        rfl

/-- **The rule of a scheme is that of its family.** -/
lemma rule?_standard_eq_some_iff {scheme : String} {rule : NamingRule} :
    standard.rule? scheme = some rule ↔ ∃ f : Family, f.Covers scheme ∧ rule = f.rule := by
  rw [rule?, Option.or_eq_some_iff, get?_standard_eq_some_iff]
  constructor
  · rintro (⟨f, hmem, rfl⟩ | ⟨-, h⟩)
    · exact ⟨f, ⟨scheme, hmem, .inl rfl⟩, rfl⟩
    · obtain ⟨family, hfamily, hget⟩ := Option.bind_eq_some_iff.1 h
      obtain ⟨-, rest, rfl⟩ := family?_eq_some_iff.1 hfamily
      obtain ⟨f, hmem, rfl⟩ := get?_standard_eq_some_iff.1 hget
      exact ⟨f, ⟨family, hmem, .inr ⟨rest, rfl⟩⟩, rfl⟩
  · rintro ⟨f, ⟨s, hmem, rfl | ⟨rest, rfl⟩⟩, rfl⟩
    · exact .inl ⟨f, hmem, rfl⟩
    · have hnone : standard.rules.get? (s ++ ":" ++ rest) = none := by
        rw [Option.eq_none_iff_forall_ne_some]
        intro rule hrule
        obtain ⟨g, hg, -⟩ := get?_standard_eq_some_iff.1 hrule
        exact Family.colon_notMem hg (by simp)
      refine .inr ⟨hnone, ?_⟩
      rw [family?_eq_some_iff.2 ⟨Family.colon_notMem hmem, rest, rfl⟩]
      exact get?_standard_eq_some_iff.2 ⟨f, hmem, rfl⟩

/-- A scheme belongs to one family at most. -/
lemma Family.eq_of_covers {f g : Family} {scheme : String} (hf : f.Covers scheme)
    (hg : g.Covers scheme) : f = g := by
  obtain ⟨s, hs, rfl | ⟨rest, rfl⟩⟩ := hf
  · obtain ⟨t, ht, rfl | ⟨rest, rfl⟩⟩ := hg
    · exact eq_of_mem_schemes hs ht
    · exact absurd (by simp) (colon_notMem hs)
  · obtain ⟨t, ht, rfl | ⟨rest', heq⟩⟩ := hg
    · exact absurd (by simp) (colon_notMem ht)
    · have hfirst : family? (s ++ ":" ++ rest) = some s :=
        family?_eq_some_iff.2 ⟨colon_notMem hs, rest, rfl⟩
      rw [family?_eq_some_iff.2 ⟨colon_notMem ht, rest', heq⟩] at hfirst
      obtain rfl := Option.some.inj hfirst
      exact eq_of_mem_schemes hs ht

end Provenance.NamingRegistry
