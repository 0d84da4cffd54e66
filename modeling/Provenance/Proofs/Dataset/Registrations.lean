import Provenance.Proofs.Dataset.Registry
import Provenance.Proofs.Location.Grammar

/-!
# Registries by their history

A registry comes about by registering rules one after the other, beginning with the empty registry
or with the standard one, whose own rules have been registered before (`standard_registerAll`).  A
scheme is registered in small letters (`small`), and of several registrations for one scheme the
last one counts (`LastRule`).

The rule that *governs* a scheme is the last one for the scheme as a whole, and only without any the
last one for its family (`Governs`).  So a rule that a family gets late does not override one that a
scheme of the family got early, and no rule for another scheme matters (`registerAll_finds`).

A location has its scheme in small letters, but a scheme that is asked for (`supports`) is looked up
with the letters that it has.  The answer is that for the scheme in small letters if there are no
capital ones, or if the family is registered as it is spelled, and it is no otherwise
(`supports_spelled`).
-/

namespace Provenance.NamingRegistry

/-! ## Registering one after the other -/

/-- A rule and the scheme for which it is registered, in whatever letters. -/
structure Registration where
  scheme : String
  rule : NamingRule

/-- A scheme in small letters. -/
def small (scheme : String) : String :=
  String.ofList (scheme.toList.map Char.toLower)

/-- Register rules one after the other. -/
def registerAll (r : NamingRegistry) (history : List Registration) : NamingRegistry :=
  history.foldl (fun r g => r.register g.scheme g.rule) r

/-- What registrations set in a dictionary of rules. -/
def settings (history : List Registration) : List (String × NamingRule) :=
  history.map fun g => (small g.scheme, g.rule)

/-- There is a registration for a scheme. -/
def Registered (history : List Registration) (scheme : String) : Prop :=
  ∃ g ∈ history, small g.scheme = scheme

/-- The last registration for a scheme is one of a rule. -/
def LastRule (history : List Registration) (scheme : String) (rule : NamingRule) : Prop :=
  ∃ before g after, history = before ++ g :: after ∧ small g.scheme = scheme ∧ g.rule = rule ∧
    ¬Registered after scheme

section History

variable {history : List Registration} {g : Registration} {scheme family : String}
  {rule : NamingRule}

@[simp] lemma not_registered_nil (scheme : String) : ¬Registered [] scheme := by
  simp [Registered]

@[simp] lemma registered_cons_iff : Registered (g :: history) scheme ↔
    small g.scheme = scheme ∨ Registered history scheme := by
  simp [Registered]

@[simp] lemma registered_append_iff {later : List Registration} :
    Registered (history ++ later) scheme ↔ Registered history scheme ∨ Registered later scheme := by
  simp [Registered, or_and_right, exists_or]

lemma registerAll_append (r : NamingRegistry) (history later : List Registration) :
    r.registerAll (history ++ later) = (r.registerAll history).registerAll later := by
  simp [registerAll]

lemma rules_registerAll (r : NamingRegistry) (history : List Registration) :
    (r.registerAll history).rules =
      (settings history).foldl (fun d s => d.insert s.1 s.2) r.rules := by
  induction history generalizing r with
  | nil => rfl
  | cons g history ih => exact ih (r.register g.scheme g.rule)

lemma registered_iff : Registered history scheme ↔ scheme ∈ (settings history).map (·.1) := by
  simp [Registered, settings]

/-- The last registration for a scheme is the last setting of it. -/
lemma lastRule_iff :
    LastRule history scheme rule ↔ Entries.LastSets (settings history) scheme rule := by
  constructor
  · rintro ⟨before, g, after, rfl, rfl, rfl, hlater⟩
    refine ⟨settings before, settings after, ?_, mt registered_iff.2 hlater⟩
    simp [settings]
  · rintro ⟨before, after, hsplit, hlater⟩
    obtain ⟨earlier, rest, rfl, rfl, hrest⟩ := List.map_eq_append_iff.1 hsplit
    obtain ⟨g, later, rfl, hg, rfl⟩ := List.map_eq_cons_iff.1 hrest
    obtain ⟨hscheme, hrule⟩ := Prod.mk.inj hg
    exact ⟨earlier, g, later, rfl, hscheme, hrule, mt registered_iff.1 hlater⟩

/-- Where there is a registration there is a last one. -/
lemma Registered.exists_lastRule (h : Registered history scheme) :
    ∃ rule, LastRule history scheme rule := by
  obtain ⟨rule, hlast⟩ := Entries.exists_lastSets (registered_iff.1 h)
  exact ⟨rule, lastRule_iff.2 hlast⟩

lemma get?_registerAll_of_not_registered (h : ¬Registered history scheme) (r : NamingRegistry) :
    (r.registerAll history).rules.get? scheme = r.rules.get? scheme := by
  rw [rules_registerAll]
  apply Dictionary.get?_foldl_insert_of_notMem
  exact mt registered_iff.2 h

/-- **The last registration counts.** -/
lemma LastRule.get?_registerAll (h : LastRule history scheme rule) (r : NamingRegistry) :
    (r.registerAll history).rules.get? scheme = some rule := by
  rw [rules_registerAll]
  apply Dictionary.get?_foldl_insert_of_lastSets
  exact lastRule_iff.1 h

/-- What is known of a scheme is its last registration. -/
lemma get?_registerAll_eq_some_iff :
    (empty.registerAll history).rules.get? scheme = some rule ↔ LastRule history scheme rule := by
  rw [rules_registerAll, lastRule_iff]
  exact Dictionary.get?_ofSettings_eq_some_iff

lemma get?_registerAll_eq_none_iff :
    (empty.registerAll history).rules.get? scheme = none ↔ ¬Registered history scheme := by
  rw [rules_registerAll, registered_iff]
  exact Dictionary.get?_ofSettings_eq_none_iff

/-- Without the scheme of a registration the history says the same. -/
lemma get?_registerAll_insert (h : small g.scheme ≠ scheme) (r : NamingRegistry)
    (before after : List Registration) :
    (r.registerAll (before ++ g :: after)).rules.get? scheme =
      (r.registerAll (before ++ after)).rules.get? scheme := by
  rw [registerAll_append, registerAll_append]
  by_cases hlater : Registered after scheme
  · obtain ⟨last, before', g', after', rfl, hlast⟩ := hlater.exists_lastRule
    have hsame : LastRule (before' ++ g' :: after') scheme last := ⟨before', g', after', rfl, hlast⟩
    have hbehind : LastRule (g :: (before' ++ g' :: after')) scheme last :=
      ⟨g :: before', g', after', rfl, hlast⟩
    rw [hsame.get?_registerAll, hbehind.get?_registerAll]
  · have hbehind : ¬Registered (g :: after) scheme :=
      fun hcons => (registered_cons_iff.1 hcons).elim h hlater
    rw [get?_registerAll_of_not_registered hlater, get?_registerAll_of_not_registered hbehind]

/-! ## The rule that governs a scheme -/

/-- A scheme begins with a family and the colon that ends it. -/
def IsFamily (family scheme : String) : Prop :=
  ':' ∉ family.toList ∧ ∃ rest, scheme = family ++ ":" ++ rest

/-- The rule by which the locations of a scheme are named, going by the history of registrations. -/
inductive Governs (history : List Registration) (scheme : String) : NamingRule → Prop
  /-- The last rule for the scheme itself. -/
  | own {rule : NamingRule} : LastRule history scheme rule → Governs history scheme rule
  /-- Without any, the last rule for the family. -/
  | ofFamily {family : String} {rule : NamingRule} : ¬Registered history scheme →
      IsFamily family scheme → LastRule history family rule → Governs history scheme rule

/-- Neither a scheme nor its family has ever been registered. -/
def Ungoverned (history : List Registration) (scheme : String) : Prop :=
  ¬Registered history scheme ∧ ∀ family, IsFamily family scheme → ¬Registered history family

lemma rule?_registerAll_eq_some_iff :
    (empty.registerAll history).rule? scheme = some rule ↔ Governs history scheme rule := by
  rw [rule?, Option.or_eq_some_iff, get?_registerAll_eq_some_iff, get?_registerAll_eq_none_iff,
    Option.bind_eq_some_iff]
  simp only [get?_registerAll_eq_some_iff, family?_eq_some_iff]
  constructor
  · rintro (hlast | ⟨hnone, family, hfamily, hlast⟩)
    · exact .own hlast
    · exact .ofFamily hnone hfamily hlast
  · rintro (hlast | ⟨hnone, hfamily, hlast⟩)
    · exact .inl hlast
    · exact .inr ⟨hnone, _, hfamily, hlast⟩

lemma rule?_registerAll_eq_none_iff :
    (empty.registerAll history).rule? scheme = none ↔ Ungoverned history scheme := by
  rw [rule?, Option.or_eq_none_iff, get?_registerAll_eq_none_iff, Option.bind_eq_none_iff]
  simp only [get?_registerAll_eq_none_iff, family?_eq_some_iff]
  exact Iff.rfl

lemma supports_iff_normalize (r : NamingRegistry) (l : Location) :
    r.supports l.scheme = true ↔ ∃ d, r.normalize l = .ok d := by
  unfold supports normalize
  cases r.rule? l.scheme <;> simp

/-- A rule that is registered neither for a scheme nor for its family does not matter to it. -/
lemma rule?_registerAll_insert (h : small g.scheme ≠ scheme)
    (hfamily : ¬IsFamily (small g.scheme) scheme) (r : NamingRegistry)
    (before after : List Registration) :
    (r.registerAll (before ++ g :: after)).rule? scheme =
      (r.registerAll (before ++ after)).rule? scheme := by
  rw [rule?, rule?, get?_registerAll_insert h]
  cases hfront : family? scheme with
  | none => rfl
  | some front =>
      have hne : small g.scheme ≠ front := by
        rintro rfl
        exact hfamily (family?_eq_some_iff.1 hfront)
      rw [Option.bind_some, Option.bind_some, get?_registerAll_insert hne]

end History

/-! ## Histories of the empty and of the standard registry -/

/-- The registrations of the standard registry. -/
def standardRegistrations : List Registration :=
  ⟨"file", .localFile⟩ :: authoritySchemes.map (⟨·, .byAuthority⟩) ++ [⟨"jdbc", .database⟩]

/-- The rules of the standard registry have been registered before all others. -/
lemma standard_registerAll (history : List Registration) :
    standard.registerAll history = empty.registerAll (standardRegistrations ++ history) := by
  rw [registerAll_append]
  rfl

/-- Rules are found in a registry as the history of its registrations has it. -/
structure Finds (r : NamingRegistry) (history : List Registration) : Prop where
  /-- A location is named by the rule that governs its scheme. -/
  governed : ∀ (l : Location) (rule : NamingRule), Governs history l.scheme rule →
    r.normalize l = .ok (rule.normalize l)
  /-- Without such a rule the location is refused with its scheme and its text. -/
  ungoverned : ∀ l : Location, Ungoverned history l.scheme →
    r.normalize l = .error ⟨l.scheme, l.toText⟩
  /-- One rule governs a scheme, or none does. -/
  decided : ∀ scheme, (∃! rule, Governs history scheme rule) ∧ ¬Ungoverned history scheme ∨
    Ungoverned history scheme ∧ ∀ rule, ¬Governs history scheme rule
  /-- The scheme of a location is supported if and only if the location has a name. -/
  supported : ∀ l : Location, r.supports l.scheme = true ↔ ∃ d, r.normalize l = .ok d

lemma finds_registerAll (history : List Registration) :
    Finds (empty.registerAll history) history where
  governed l rule h := by
    rw [normalize, rule?_registerAll_eq_some_iff.2 h]
  ungoverned l h := by
    rw [normalize, rule?_registerAll_eq_none_iff.2 h]
  decided scheme := by
    simp only [← rule?_registerAll_eq_some_iff, ← rule?_registerAll_eq_none_iff]
    cases (empty.registerAll history).rule? scheme with
    | none => exact .inr ⟨rfl, nofun⟩
    | some rule => exact .inl ⟨⟨rule, rfl, fun _ h => (Option.some.inj h).symm⟩, nofun⟩
  supported l := supports_iff_normalize _ l

/-- **Registries find rules by their history**, whether they begin empty or with the standard rules,
which then count as the first registrations; and a registration for another scheme changes nothing,
wherever it stands in the history. -/
theorem registerAll_finds (history : List Registration) :
    Finds (empty.registerAll history) history ∧
    Finds (standard.registerAll history) (standardRegistrations ++ history) ∧
    ∀ (r : NamingRegistry) (before after : List Registration), history = before ++ after →
      ∀ (g : Registration) (l : Location), small g.scheme ≠ l.scheme →
        ¬IsFamily (small g.scheme) l.scheme →
        (r.registerAll (before ++ g :: after)).normalize l = (r.registerAll history).normalize l := by
  refine ⟨finds_registerAll history, ?_, ?_⟩
  · rw [standard_registerAll]
    exact finds_registerAll _
  · rintro r before after rfl g l hscheme hfamily
    rw [normalize, normalize, rule?_registerAll_insert hscheme hfamily]

/-- A late rule for a family does not override an early one for a scheme of the family. -/
example : (empty.registerAll [⟨"A:b", .localFile⟩, ⟨"a", .byAuthority⟩]).normalize
    ⟨"a:b", some "c", "/d"⟩ = .ok ⟨"a:b", "/d"⟩ := by
  decide

/-! ## Capital letters -/

section Letters

variable {history : List Registration} {scheme family : String}

lemma small_small (scheme : String) : small (small scheme) = small scheme := by
  have hchars : Char.toLower ∘ Char.toLower = Char.toLower :=
    funext fun c => Location.toLower_toLower c
  rw [small, small, String.toList_ofList, List.map_map, hchars]

/-- What is registered is in small letters. -/
lemma Registered.small_eq (h : Registered history scheme) : small scheme = scheme := by
  obtain ⟨g, -, rfl⟩ := h
  exact small_small g.scheme

/-- The family of a scheme is a family in either case. -/
lemma IsFamily.small (h : IsFamily family scheme) :
    IsFamily (NamingRegistry.small family) (NamingRegistry.small scheme) := by
  obtain ⟨hcolon, rest, rfl⟩ := h
  refine ⟨fun hmem => hcolon ?_, NamingRegistry.small rest, ?_⟩
  · rw [NamingRegistry.small, String.toList_ofList] at hmem
    obtain ⟨c, hc, hlower⟩ := List.mem_map.1 hmem
    obtain rfl : c = ':' := (Location.facts_of_toLower c).1.1 hlower
    exact hc
  · rw [← String.toList_inj]
    simp [NamingRegistry.small]

/-- A family is shorter than what is registered for its schemes. -/
lemma IsFamily.ne_small (h : IsFamily family scheme) : NamingRegistry.small scheme ≠ family := by
  intro heq
  obtain ⟨hcolon, rest, hrest⟩ := h.small
  apply h.1
  rw [← heq, hrest]
  simp

/-- A scheme is supported if it is registered as it is spelled, or its family is. -/
lemma supports_registerAll_iff : (empty.registerAll history).supports scheme = true ↔
    Registered history scheme ∨ ∃ family, IsFamily family scheme ∧ Registered history family := by
  rw [supports, Option.isSome_iff_ne_none, ne_eq, rule?_registerAll_eq_none_iff, Ungoverned,
    not_and_or, not_not]
  simp only [not_forall, not_not, exists_prop]

end Letters

/-- How a registry answers to capital letters, by the history of its registrations. -/
structure AnswersLetters (r : NamingRegistry) (history : List Registration) : Prop where
  /-- For a scheme in small letters the answer is the same as for any text in which a location is
  spelled with this scheme, in whatever letters. -/
  located : ∀ (scheme raw : String) (p : Location.Spelling), p.IsProper →
    p.text = Text.trimChars raw.toList → small (String.ofList p.scheme) = small scheme →
    (r.supports (small scheme) = true ↔
      ∃ l d, Location.parse raw = .ok l ∧ r.normalize l = .ok d)
  /-- For a scheme as it is spelled it is the same, provided that there are no capital letters or
  its family is registered as it is spelled; else the scheme is not supported. -/
  spelled : ∀ scheme, r.supports scheme = true ↔ r.supports (small scheme) = true ∧
    (small scheme = scheme ∨ ∃ family, IsFamily family scheme ∧ Registered history family)
  /-- A scheme that has just been registered is supported in small letters, and as it is spelled
  under the same proviso. -/
  registered : ∀ scheme rule, (r.register scheme rule).supports (small scheme) = true ∧
    ((r.register scheme rule).supports scheme = true ↔
      small scheme = scheme ∨ ∃ family, IsFamily family scheme ∧ Registered history family)

/-- The scheme of a location is in small letters. -/
lemma scheme_location (p : Location.Spelling) :
    p.location.scheme = small (String.ofList p.scheme) := by
  rw [small, String.toList_ofList]
  rfl

lemma answersLetters_registerAll (history : List Registration) :
    AnswersLetters (empty.registerAll history) history where
  located scheme raw p hp hraw hletters := by
    have hparse : Location.parse raw = .ok p.location :=
      Location.parse_eq_ok_iff.2 ⟨p, hp, hraw, rfl⟩
    rw [← hletters, ← scheme_location, supports_iff_normalize, hparse]
    simp only [Except.ok.injEq, exists_and_left, exists_eq_left']
  spelled scheme := by
    rw [supports_registerAll_iff, supports_registerAll_iff]
    constructor
    · rintro (hscheme | ⟨family, hfamily, hregistered⟩)
      · rw [hscheme.small_eq]
        exact ⟨.inl hscheme, .inl rfl⟩
      · refine ⟨.inr ⟨family, ?_, hregistered⟩, .inr ⟨family, hfamily, hregistered⟩⟩
        rw [← hregistered.small_eq]
        exact hfamily.small
    · rintro ⟨hsmall, heq | hfamily⟩
      · rwa [heq] at hsmall
      · exact .inr hfamily
  registered scheme rule := by
    have hregister : (empty.registerAll history).register scheme rule =
        empty.registerAll (history ++ [⟨scheme, rule⟩]) := by
      rw [registerAll_append]
      rfl
    rw [hregister, supports_registerAll_iff, supports_registerAll_iff]
    refine ⟨.inl (by simp), ?_⟩
    constructor
    · rintro (hscheme | ⟨family, hfamily, hregistered⟩)
      · exact .inl hscheme.small_eq
      · have hnew : ¬Registered [⟨scheme, rule⟩] family := by simpa using hfamily.ne_small
        exact .inr ⟨family, hfamily, (registered_append_iff.1 hregistered).resolve_right hnew⟩
    · rintro (heq | ⟨family, hfamily, hregistered⟩)
      · exact .inl (by simp [heq])
      · exact .inr ⟨family, hfamily, registered_append_iff.2 (.inl hregistered)⟩

/-- **Capital letters are not seen through** when a registry is asked for a scheme, although they
are when a rule is registered and when a location is read.  So a scheme is supported as it is spelled
only if it is supported in small letters, as the locations of the scheme are, and has either no
capital letters or a family that is registered as it is spelled. -/
theorem supports_spelled (history : List Registration) :
    AnswersLetters (empty.registerAll history) history ∧
      AnswersLetters (standard.registerAll history) (standardRegistrations ++ history) := by
  refine ⟨answersLetters_registerAll history, ?_⟩
  rw [standard_registerAll]
  exact answersLetters_registerAll _

/-- A scheme is not supported in the capital letters in which it has just been registered, though it
is in small letters, and though a location that is spelled in the same capital letters has a
name. -/
theorem not_supports_capitals :
    (empty.register "FILE" .localFile).supports "FILE" = false ∧
      (empty.register "FILE" .localFile).supports "file" = true ∧
      ∃ l, Location.parse "FILE:///a" = .ok l ∧
        (empty.register "FILE" .localFile).normalize l = .ok ⟨"file", "/a"⟩ :=
  ⟨by decide, by decide, ⟨"file", none, "/a"⟩, by decide, by decide⟩

end Provenance.NamingRegistry
