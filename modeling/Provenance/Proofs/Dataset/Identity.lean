import Provenance.Proofs.Dataset.Registry
import Provenance.Proofs.Location.RoundTrip

/-!
# Datasets and the storage that they name

When do two locations have the same dataset?  `SameStorage` says it of the locations, family by
family: a local file is its path, a file on a cluster or in a bucket is its path on that system, and
a table of a database is what stands behind the leading slashes.

A namespace is made of a word without a slash, which is a scheme or a driver, and perhaps an
authority behind `://`, so both can be read off it (`systemName_inj`).  What a namespace does not
tell is whether its word is a scheme or a driver, as in `hdfs://host` and `jdbc:hdfs://host`.  Names
tell it: that of a file begins with a slash, and that of a table does not.
-/

namespace Provenance

/-! ## The same storage -/

/-- One path, where the empty path is the root. -/
def SamePath (p q : String) : Prop :=
  p = q ∨ (p = "" ∨ p = "/") ∧ (q = "" ∨ q = "/")

/-- One path, whatever slashes it begins with. -/
def SameBehindSlashes (p q : String) : Prop :=
  ∃ m n rest, p.toList = List.replicate m '/' ++ rest ∧ q.toList = List.replicate n '/' ++ rest

/-- The driver of a scheme: what stands behind `jdbc:`, or else the scheme itself. -/
inductive Drives : String → String → Prop
  | wrapped (driver : String) : Drives ("jdbc:" ++ driver) driver
  | bare {scheme : String} : (∀ driver, scheme ≠ "jdbc:" ++ driver) → Drives scheme scheme

open NamingRegistry

/-- Two locations name the same storage. -/
inductive SameStorage (k l : Location) : Prop
  | file : Family.files.Covers k.scheme → Family.files.Covers l.scheme →
      k.scheme = l.scheme → SamePath k.path l.path → SameStorage k l
  | system : Family.systems.Covers k.scheme → Family.systems.Covers l.scheme →
      k.scheme = l.scheme → k.authority = l.authority → SamePath k.path l.path → SameStorage k l
  | database {driver : String} : Family.databases.Covers k.scheme →
      Family.databases.Covers l.scheme → Drives k.scheme driver → Drives l.scheme driver →
      k.authority = l.authority → SameBehindSlashes k.path l.path → SameStorage k l

/-! ## Paths and drivers -/

namespace NamingRule

variable {k l : Location}

lemma rootedPath_eq_iff : rootedPath k = rootedPath l ↔ SamePath k.path l.path := by
  unfold rootedPath SamePath
  by_cases hk : k.path = "" <;> by_cases hl : l.path = ""
  · simp [hk, hl]
  · have hne : ¬"" = l.path := fun heq => hl heq.symm
    simpa [hk, hl, hne] using eq_comm
  · simp [hk, hl]
  · simpa [hk, hl] using fun hkr hlr => hkr.trans (Eq.symm hlr)

/-- The path of a file begins with a slash. -/
lemma head?_rootedPath (h : l.IsWellFormed) : (rootedPath l).toList.head? = some '/' := by
  unfold rootedPath
  by_cases hl : l.path = ""
  · simp [hl]
  · have hne : l.path.toList ≠ [] := by simpa using hl
    obtain ⟨c, cs, hpath⟩ := List.exists_cons_of_ne_nil hne
    have hc : c = '/' := h.path_head c (by simp [hpath])
    simp [hl, hpath, hc]

lemma dropWhile_replicate_append (n : ℕ) (rest : List Char) :
    (List.replicate n '/' ++ rest).dropWhile (· == '/') = rest.dropWhile (· == '/') := by
  induction n with
  | zero => rfl
  | succ n ih => rw [List.replicate_succ, List.cons_append, List.dropWhile_cons_of_pos (by rfl), ih]

/-- Slashes are dropped at the beginning of a path. -/
lemma dropWhile_eq_iff {p q : String} :
    p.toList.dropWhile (· == '/') = q.toList.dropWhile (· == '/') ↔ SameBehindSlashes p q := by
  constructor
  · intro h
    obtain ⟨m, hm⟩ := Text.exists_replicate_append '/' p.toList
    obtain ⟨n, hn⟩ := Text.exists_replicate_append '/' q.toList
    exact ⟨m, n, _, hm, h ▸ hn⟩
  · rintro ⟨m, n, rest, hp, hq⟩
    rw [hp, hq, dropWhile_replicate_append, dropWhile_replicate_append]

lemma drives_driver (scheme : String) : Drives scheme (driver scheme) := by
  simp only [driver]
  split
  · rename_i h
    obtain ⟨rest, hrest⟩ := List.isPrefixOf_iff_prefix.1 h
    have hscheme : scheme = "jdbc:" ++ String.ofList rest := by
      rw [← String.toList_inj, ← hrest]
      simp
    have hdrop : scheme.toList.drop 5 = rest := by
      rw [← hrest]
      rfl
    show Drives scheme (String.ofList (scheme.toList.drop 5))
    rw [hdrop, hscheme]
    exact .wrapped _
  · rename_i h
    refine .bare fun driver hscheme => h ?_
    rw [List.isPrefixOf_iff_prefix, hscheme]
    exact ⟨driver.toList, by simp⟩

/-- A scheme has one driver. -/
lemma drives_iff {scheme d : String} : Drives scheme d ↔ driver scheme = d := by
  constructor
  · rintro (_ | hbare)
    · simp [driver]
    · have hdriver := drives_driver scheme
      generalize driver scheme = d at hdriver ⊢
      cases hdriver with
      | wrapped d => exact absurd rfl (hbare d)
      | bare _ => rfl
  · rintro rfl
    exact drives_driver scheme

lemma slash_notMem_of_drives {scheme d : String} (h : Drives scheme d)
    (hscheme : '/' ∉ scheme.toList) : '/' ∉ d.toList := by
  cases h with
  | wrapped d => exact fun hmem => hscheme (by simp [hmem])
  | bare _ => exact hscheme

/-! ## Names of systems -/

/-- The name of a system: a scheme or a driver, and an authority if there is one. -/
def systemName (system : String) (authority : Option String) : String :=
  system ++ authority.elim "" ("://" ++ ·)

/-- **A namespace tells its system**, whatever there may be in the authority. -/
lemma systemName_inj {s t : String} {a b : Option String} (hs : '/' ∉ s.toList)
    (ht : '/' ∉ t.toList) : systemName s a = systemName t b ↔ s = t ∧ a = b := by
  have hsplit : ∀ {s : String} (a : String), '/' ∉ s.toList →
      Location.splitMarker? (systemName s (some a)).toList =
        some (s.toList, '/' :: '/' :: a.toList) := by
    intro s a hs
    rw [← Location.splitMarker?_append hs]
    simp [systemName]
  constructor
  · intro h
    cases a with
    | none =>
        cases b with
        | none => simpa [systemName] using h
        | some b =>
            refine absurd ?_ hs
            rw [show s = systemName t (some b) by simpa [systemName] using h]
            simp [systemName]
    | some a =>
        cases b with
        | none =>
            refine absurd ?_ ht
            rw [show t = systemName s (some a) by simpa [systemName] using h.symm]
            simp [systemName]
        | some b =>
            have hparts := hsplit a hs
            rw [h, hsplit b ht] at hparts
            obtain ⟨hts, hba⟩ : t.toList = s.toList ∧ b.toList = a.toList := by simpa using hparts
            exact ⟨(String.toList_inj.1 hts).symm, congrArg some (String.toList_inj.1 hba).symm⟩
  · rintro ⟨rfl, rfl⟩
    rfl

/-! ## One family -/

/-- The parts of the name of a file are its scheme and its path. -/
lemma normalize_localFile (l : Location) :
    localFile.normalize l = ⟨systemName l.scheme none, rootedPath l⟩ := by
  simp [localFile, systemName]

lemma normalize_byAuthority (l : Location) :
    byAuthority.normalize l = ⟨systemName l.scheme l.authority, rootedPath l⟩ := by
  cases h : l.authority <;> simp [byAuthority, systemName, h, String.append_assoc]

lemma normalize_database (l : Location) :
    database.normalize l = ⟨systemName (driver l.scheme) (some (l.authority.getD "")),
      String.ofList (l.path.toList.dropWhile (· == '/'))⟩ := by
  simp [database, systemName, String.append_assoc]

lemma localFile_eq_iff (hk : k.IsWellFormed) (hl : l.IsWellFormed) :
    localFile.normalize k = localFile.normalize l ↔
      k.scheme = l.scheme ∧ SamePath k.path l.path := by
  rw [normalize_localFile, normalize_localFile, Dataset.mk.injEq,
    systemName_inj hk.slash_notMem_scheme hl.slash_notMem_scheme, rootedPath_eq_iff]
  simp

lemma byAuthority_eq_iff (hk : k.IsWellFormed) (hl : l.IsWellFormed) :
    byAuthority.normalize k = byAuthority.normalize l ↔
      k.scheme = l.scheme ∧ k.authority = l.authority ∧ SamePath k.path l.path := by
  rw [normalize_byAuthority, normalize_byAuthority, Dataset.mk.injEq,
    systemName_inj hk.slash_notMem_scheme hl.slash_notMem_scheme, rootedPath_eq_iff, and_assoc]

/-- An authority that is missing is not one that is there, since that is not empty. -/
lemma authority_getD_eq_iff (hk : k.IsWellFormed) (hl : l.IsWellFormed) :
    k.authority.getD "" = l.authority.getD "" ↔ k.authority = l.authority := by
  refine ⟨fun h => ?_, fun h => h ▸ rfl⟩
  cases hka : k.authority with
  | none =>
      cases hla : l.authority with
      | none => rfl
      | some b =>
          have hb : b = "" := by simpa [hka, hla, @eq_comm _ ""] using h
          exact absurd hb (hl.authority b hla).1
  | some a =>
      cases hla : l.authority with
      | none =>
          have ha : a = "" := by simpa [hka, hla] using h
          exact absurd ha (hk.authority a hka).1
      | some b => simpa [hka, hla] using h

lemma database_eq_iff (hk : k.IsWellFormed) (hl : l.IsWellFormed) :
    database.normalize k = database.normalize l ↔
      driver k.scheme = driver l.scheme ∧ k.authority = l.authority ∧
        SameBehindSlashes k.path l.path := by
  have hslash : ∀ {l : Location}, l.IsWellFormed → '/' ∉ (driver l.scheme).toList :=
    fun hl => slash_notMem_of_drives (drives_driver _) hl.slash_notMem_scheme
  rw [normalize_database, normalize_database, Dataset.mk.injEq,
    systemName_inj (hslash hk) (hslash hl), String.ofList_inj, dropWhile_eq_iff,
    Option.some.injEq, authority_getD_eq_iff hk hl, and_assoc]

end NamingRule

namespace NamingRegistry

open NamingRule

variable {k l : Location}

/-! ## All families -/

/-- What is stored in one family is named by the family's rule. -/
lemma normalize_of_covers {f : Family} (h : f.Covers l.scheme) :
    standard.normalize l = .ok (f.rule.normalize l) := by
  have hrule : standard.rule? l.scheme = some f.rule := rule?_standard_eq_some_iff.2 ⟨f, h, rfl⟩
  simp only [normalize, hrule]

lemma exists_covers {scheme : String} (h : standard.supports scheme = true) :
    ∃ f : Family, f.Covers scheme := by
  obtain ⟨rule, hrule⟩ := Option.isSome_iff_exists.1 h
  obtain ⟨f, hf, -⟩ := rule?_standard_eq_some_iff.1 hrule
  exact ⟨f, hf⟩

/-- The name of a file begins with a slash, that of a table does not. -/
lemma head?_name (f : Family) (h : l.IsWellFormed) :
    (f.rule.normalize l).name.toList.head? = some '/' ↔ f ≠ .databases := by
  cases f with
  | files => simp [Family.rule, normalize_localFile, head?_rootedPath h]
  | systems => simp [Family.rule, normalize_byAuthority, head?_rootedPath h]
  | databases =>
      have hhead := List.head?_dropWhile_not (· == '/') l.path.toList
      simp only [Family.rule, normalize_database, String.toList_ofList, ne_eq, not_true_eq_false,
        iff_false]
      intro hslash
      rw [hslash] at hhead
      simp at hhead

/-- The namespace of a file begins with its scheme. -/
lemma namespaceName_eq {f : Family} (h : f ≠ .databases) (l : Location) :
    ∃ a, (f.rule.normalize l).namespaceName = systemName l.scheme a := by
  cases f with
  | files => exact ⟨none, by rw [Family.rule, normalize_localFile]⟩
  | systems => exact ⟨l.authority, by rw [Family.rule, normalize_byAuthority]⟩
  | databases => exact absurd rfl h

/-- **Locations of different families have different datasets.** -/
lemma ne_of_covers {f g : Family} (hk : k.IsWellFormed) (hl : l.IsWellFormed)
    (hf : f.Covers k.scheme) (hg : g.Covers l.scheme) (hne : f ≠ g) :
    f.rule.normalize k ≠ g.rule.normalize l := by
  intro heq
  have hname : f ≠ .databases ↔ g ≠ .databases := by
    rw [← head?_name f hk, ← head?_name g hl, heq]
  by_cases hdb : f = .databases
  · have hgdb : g = .databases := by
      by_contra hg
      exact hname.2 hg hdb
    exact hne (hdb.trans hgdb.symm)
  · obtain ⟨a, ha⟩ := namespaceName_eq hdb k
    obtain ⟨b, hb⟩ := namespaceName_eq (hname.1 hdb) l
    rw [heq, hb] at ha
    have hscheme : l.scheme = k.scheme :=
      ((systemName_inj hl.slash_notMem_scheme hk.slash_notMem_scheme).1 ha).1
    exact hne (Family.eq_of_covers hf (hscheme ▸ hg))

/-- In one family the datasets are equal if and only if the storage is the same. -/
lemma normalize_eq_iff_sameStorage {f : Family} (hk : k.IsWellFormed) (hl : l.IsWellFormed)
    (hf : f.Covers k.scheme) (hg : f.Covers l.scheme) :
    f.rule.normalize k = f.rule.normalize l ↔ SameStorage k l := by
  constructor
  · intro h
    cases f with
    | files =>
        obtain ⟨hscheme, hpath⟩ := (localFile_eq_iff hk hl).1 h
        exact .file hf hg hscheme hpath
    | systems =>
        obtain ⟨hscheme, hauthority, hpath⟩ := (byAuthority_eq_iff hk hl).1 h
        exact .system hf hg hscheme hauthority hpath
    | databases =>
        obtain ⟨hdriver, hauthority, hpath⟩ := (database_eq_iff hk hl).1 h
        exact .database hf hg (drives_driver _) (hdriver ▸ drives_driver _) hauthority hpath
  · rintro (⟨hcover, -, hscheme, hpath⟩ | ⟨hcover, -, hscheme, hauthority, hpath⟩ |
      ⟨hcover, -, hkd, hld, hauthority, hpath⟩)
    · obtain rfl := Family.eq_of_covers hf hcover
      exact (localFile_eq_iff hk hl).2 ⟨hscheme, hpath⟩
    · obtain rfl := Family.eq_of_covers hf hcover
      exact (byAuthority_eq_iff hk hl).2 ⟨hscheme, hauthority, hpath⟩
    · obtain rfl := Family.eq_of_covers hf hcover
      have hdriver : driver k.scheme = driver l.scheme :=
        (drives_iff.1 hkd).trans (drives_iff.1 hld).symm
      exact (database_eq_iff hk hl).2 ⟨hdriver, hauthority, hpath⟩

/-- The same storage is in one family. -/
lemma covers_of_sameStorage (h : SameStorage k l) :
    ∃ f : Family, f.Covers k.scheme ∧ f.Covers l.scheme := by
  rcases h with ⟨hk, hl, -, -⟩ | ⟨hk, hl, -, -, -⟩ | ⟨hk, hl, -, -, -, -⟩
  · exact ⟨.files, hk, hl⟩
  · exact ⟨.systems, hk, hl⟩
  · exact ⟨.databases, hk, hl⟩

/-- **A dataset is the identity of storage.**  Two locations that the standard registry supports
have the same dataset if and only if they name the same storage.  In particular no dataset belongs
to two families, and one path on two systems that are told apart by scheme and authority names two
datasets. -/
theorem normalize_standard_eq_iff (hk : k.Arises) (hl : l.Arises)
    (hks : standard.supports k.scheme = true) (hls : standard.supports l.scheme = true) :
    ∃ (f g : Family) (c d : Dataset), f.Covers k.scheme ∧ g.Covers l.scheme ∧
      standard.normalize k = .ok c ∧ standard.normalize l = .ok d ∧
      (c = d ↔ SameStorage k l) ∧ (f ≠ g → c ≠ d) ∧
      (f = .systems → g = .systems → k.path = l.path →
        k.scheme ≠ l.scheme ∨ k.authority ≠ l.authority → c ≠ d) := by
  have hkw : k.IsWellFormed := hk.isWellFormed
  have hlw : l.IsWellFormed := hl.isWellFormed
  obtain ⟨f, hf⟩ := exists_covers hks
  obtain ⟨g, hg⟩ := exists_covers hls
  refine ⟨f, g, f.rule.normalize k, g.rule.normalize l, hf, hg, normalize_of_covers hf,
    normalize_of_covers hg, ?_, ne_of_covers hkw hlw hf hg, ?_⟩
  · by_cases hfg : f = g
    · subst hfg
      exact normalize_eq_iff_sameStorage hkw hlw hf hg
    · refine ⟨fun heq => absurd heq (ne_of_covers hkw hlw hf hg hfg), fun hsame => ?_⟩
      obtain ⟨e, hek, hel⟩ := covers_of_sameStorage hsame
      exact absurd ((Family.eq_of_covers hf hek).trans (Family.eq_of_covers hel hg)) hfg
  · rintro rfl rfl - hne heq
    obtain ⟨hscheme, hauthority, -⟩ := (byAuthority_eq_iff hkw hlw).1 heq
    rcases hne with hne | hne
    · exact hne hscheme
    · exact hne hauthority

/-- A cluster and a database whose namespaces are spelled alike. -/
theorem normalize_standard_eq_iff_lookalikes :
    (⟨"hdfs", some "h:1", "/t"⟩ : Location).Arises ∧
      (⟨"jdbc:hdfs", some "h:1", "/t"⟩ : Location).Arises ∧
      standard.supports "hdfs" = true ∧ standard.supports "jdbc:hdfs" = true ∧
      standard.normalize ⟨"hdfs", some "h:1", "/t"⟩ = .ok ⟨"hdfs://h:1", "/t"⟩ ∧
      standard.normalize ⟨"jdbc:hdfs", some "h:1", "/t"⟩ = .ok ⟨"hdfs://h:1", "t"⟩ ∧
      ¬SameStorage ⟨"hdfs", some "h:1", "/t"⟩ ⟨"jdbc:hdfs", some "h:1", "/t"⟩ := by
  have hparse : Location.parse "HDFS://h:1/t" = .ok ⟨"hdfs", some "h:1", "/t"⟩ := rfl
  have hparse' : Location.parse "jdbc:hdfs://h:1/t" = .ok ⟨"jdbc:hdfs", some "h:1", "/t"⟩ := rfl
  have hsupports : standard.supports "hdfs" = true := rfl
  have hsupports' : standard.supports "jdbc:hdfs" = true := rfl
  have hc : standard.normalize ⟨"hdfs", some "h:1", "/t"⟩ = .ok ⟨"hdfs://h:1", "/t"⟩ := rfl
  have hd : standard.normalize ⟨"jdbc:hdfs", some "h:1", "/t"⟩ = .ok ⟨"hdfs://h:1", "t"⟩ := rfl
  obtain ⟨-, -, c, d, -, -, hc', hd', hiff, -, -⟩ :=
    normalize_standard_eq_iff (.parsed hparse) (.parsed hparse') hsupports hsupports'
  obtain rfl := Except.ok.inj (hc.symm.trans hc')
  obtain rfl := Except.ok.inj (hd.symm.trans hd')
  refine ⟨.parsed hparse, .parsed hparse', hsupports, hsupports', hc, hd, fun hsame => ?_⟩
  exact absurd (hiff.2 hsame) (by decide)

end NamingRegistry

end Provenance
