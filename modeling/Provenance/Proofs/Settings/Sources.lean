import Provenance.Agent
import Provenance.Proofs.Settings.Reader
import Provenance.Proofs.Stepwise
import Provenance.Settings.Load

/-!
# Where settings come from

Settings come from the place that applies first (`Settings.ComesFrom`): the file that is named
explicitly, the one that the environment names, even by an empty name, the user's own if it is there,
or no file at all.  What a file gives is settings or an error (`Settings.FileGives`), and an error is
final: no other place is tried (`Settings.Chosen`).

The environment overrides three of the fields, each by a value that is not blank
(`Settings.Overrides`).  That keeps settings valid (`Settings.Overrides.isValid`), and those by
default are valid as well, so the check behind the overrides never fails, and whatever is loaded is
fit for an agent (`Settings.load_exact`).
-/

namespace Provenance

/-- An agent is made of settings whose default filesystem is a location. -/
lemma Agent.create_of_parse {s : Settings} {l : Location} (h : Location.parse s.defaultFs = .ok l)
    (registry : NamingRegistry) : Agent.create s registry = .ok ⟨s, ⟨l⟩, registry⟩ := by
  rw [Agent.create, Settings.defaultLocation, h]
  rfl

namespace Settings

variable {standard s t : Settings} {h : Host} {explicit place : Option String} {path : String}
  {environment : String → Option String}

/-! ## Validity -/

/-- The namespace is not blank, and the default filesystem is a location. -/
structure IsValid (s : Settings) : Prop where
  namespaceName : Text.isBlankText s.namespaceName = false
  defaultFs : ∃ l, Location.parse s.defaultFs = .ok l

/-- What is wrong with settings; of two defects it is that of the namespace. -/
inductive HasDefect (s : Settings) : Defect → Prop
  | blankNamespace : Text.isBlankText s.namespaceName = true → HasDefect s .blankNamespace
  | defaultFs {e : Location.Malformed} : Text.isBlankText s.namespaceName = false →
      Location.parse s.defaultFs = .error e → HasDefect s (.defaultFs e)

lemma IsValid.validate (h : s.IsValid) : s.validate = .ok s := by
  obtain ⟨hname, l, hl⟩ := h
  rw [Settings.validate, if_neg (Bool.not_eq_true _ ▸ hname), defaultLocation, hl]
  rfl

lemma HasDefect.validate {d : Defect} (h : HasDefect s d) : s.validate = .error d := by
  rcases h with hblank | ⟨hname, hfs⟩
  · rw [Settings.validate, if_pos hblank]
  · rw [Settings.validate, if_neg (Bool.not_eq_true _ ▸ hname), defaultLocation, hfs]
    rfl

lemma isValid_or_hasDefect (s : Settings) : s.IsValid ∨ ∃ d, HasDefect s d := by
  cases hname : Text.isBlankText s.namespaceName with
  | true => exact .inr ⟨_, .blankNamespace hname⟩
  | false =>
      cases hfs : Location.parse s.defaultFs with
      | error e => exact .inr ⟨_, .defaultFs hname hfs⟩
      | ok l => exact .inl ⟨hname, l, hfs⟩

lemma isValid_standard (parent : RunId) : (Settings.standard parent).IsValid :=
  ⟨(by decide : Text.isBlankText "default" = false), ⟨"file", none, "/"⟩,
    (by decide : Location.parse "file:///" = .ok ⟨"file", none, "/"⟩)⟩

/-! ## Overriding -/

/-- A text as the environment has it under a name, or as it was if that is blank or missing. -/
inductive Overridden (environment : String → Option String) (name before : String) : String → Prop
  | set {value : String} : environment name = some value → Text.isBlankText value = false →
      Overridden environment name before value
  | kept : (∀ value, environment name = some value → Text.isBlankText value = true) →
      Overridden environment name before before

/-- Settings with what the environment overrides. -/
structure Overrides (environment : String → Option String) (s t : Settings) : Prop where
  namespaceName : Overridden environment "LINEAGE_NAMESPACE" s.namespaceName t.namespaceName
  parentRunId : Overridden environment "LINEAGE_PARENT_RUN_ID" s.parentRunId t.parentRunId
  parentJobName : Overridden environment "LINEAGE_PARENT_JOB_NAME" s.parentJobName t.parentJobName
  appName : t.appName = s.appName
  defaultFs : t.defaultFs = s.defaultFs

lemma overridden_iff {name before after : String} : Overridden environment name before after ↔
    after = (override? environment name).getD before := by
  unfold override?
  constructor
  · rintro (⟨hset, hvalue⟩ | hblank)
    · simp [hset, hvalue, Option.filter_some]
    · cases hset : environment name with
      | none => rfl
      | some value => simp [hblank value hset, Option.filter_some]
  · rintro rfl
    cases hset : environment name with
    | none => exact .kept (by simp [hset])
    | some value =>
        cases hvalue : Text.isBlankText value with
        | true =>
            rw [Option.filter_some_neg (by simp [hvalue])]
            exact .kept (by simp [hset, hvalue])
        | false =>
            rw [Option.filter_some_pos (by simp [hvalue])]
            exact .set hset hvalue

lemma Overridden.not_blank {name before after : String}
    (h : Overridden environment name before after) (hbefore : Text.isBlankText before = false) :
    Text.isBlankText after = false := by
  obtain ⟨-, hvalue⟩ | - := h
  · exact hvalue
  · exact hbefore

lemma overrides_iff : Overrides environment s t ↔ t = s.withOverrides environment := by
  constructor
  · rintro ⟨hname, hrun, hjob, happ, hfs⟩
    cases t
    simp only [withOverrides, mk.injEq]
    exact ⟨overridden_iff.1 hname, overridden_iff.1 hrun, overridden_iff.1 hjob, happ, hfs⟩
  · rintro rfl
    exact ⟨overridden_iff.2 rfl, overridden_iff.2 rfl, overridden_iff.2 rfl, rfl, rfl⟩

/-- **Overriding keeps settings valid**, since no field becomes blank by it. -/
lemma Overrides.isValid (h : Overrides environment s t) (hs : s.IsValid) : t.IsValid :=
  ⟨h.namespaceName.not_blank hs.namespaceName, h.defaultFs ▸ hs.defaultFs⟩

/-! ## The place -/

/-- The file from which settings come, or none, if there is a file that is named explicitly or not. -/
inductive ComesFrom (h : Host) : Option String → Option String → Prop
  | explicit {path : String} : ComesFrom h (some path) (some path)
  | environment {path : String} : h.environment "LINEAGE_CONFIG" = some path →
      ComesFrom h none (some path)
  | user {directory : String} : h.environment "LINEAGE_CONFIG" = none →
      h.settingsDirectory? = some directory →
      h.hasFile (directory ++ "/lineage/config.yaml") = true →
      ComesFrom h none (some (directory ++ "/lineage/config.yaml"))
  | nowhere : h.environment "LINEAGE_CONFIG" = none →
      (∀ directory, h.settingsDirectory? = some directory →
        h.hasFile (directory ++ "/lineage/config.yaml") = false) → ComesFrom h none none

lemma comesFrom_iff : ComesFrom h explicit place ↔ locate h explicit = place := by
  unfold locate fileVariable userFile?
  constructor
  · rintro (_ | hset | ⟨hunset, huser, hfile⟩ | ⟨hunset, hnone⟩)
    · rfl
    · simp [hset]
    · simp [hunset, huser, hfile, Option.filter_some]
    · simpa [hunset, Option.filter_eq_none_iff] using hnone
  · rintro rfl
    cases explicit with
    | some path => exact .explicit
    | none =>
        cases hset : h.environment "LINEAGE_CONFIG" with
        | some path => exact .environment hset
        | none =>
            cases huser : h.settingsDirectory? with
            | none => exact .nowhere hset (by simp [huser])
            | some directory =>
                rw [Option.map_some]
                cases hfile : h.hasFile (directory ++ "/lineage/config.yaml") with
                | true =>
                    rw [Option.filter_some_pos hfile]
                    exact .user hset huser hfile
                | false =>
                    rw [Option.filter_some_neg (by simp [hfile])]
                    exact .nowhere hset (by simp [huser, hfile])

/-! ## The file -/

/-- A text is YAML of a record that says what the settings are. -/
def IsWritten (standard : Settings) (text : String) (s : Settings) : Prop :=
  ∃ t, Yaml.read? text = some t ∧ Spells standard t s

/-- What comes of the settings in a file. -/
inductive FileGives (standard : Settings) (h : Host) (path : String) :
    Except LoadError Settings → Prop
  | unreadable {e : FileError} : h.read path = .error e →
      FileGives standard h path (.error (.unreadable e))
  | illFormed {text : String} : h.read path = .ok text → (∀ s, ¬IsWritten standard text s) →
      FileGives standard h path (.error .illFormed)
  | invalid {text : String} {s : Settings} {d : Defect} : h.read path = .ok text →
      IsWritten standard text s → HasDefect s d → FileGives standard h path (.error (.invalid d))
  | valid {text : String} {s : Settings} : h.read path = .ok text → IsWritten standard text s →
      s.IsValid → FileGives standard h path (.ok s)

lemma isWritten_iff {text : String} :
    IsWritten standard text s ↔ (Yaml.read? text >>= ofTree? standard) = some s := by
  rw [Option.bind_eq_bind, Option.bind_eq_some_iff]
  simp only [ofTree?_eq_some_iff]
  exact Iff.rfl

lemma ofFile_of_unreadable {e : FileError} (hread : h.read path = .error e) :
    ofFile standard h path = .error (.unreadable e) := by
  rw [ofFile, hread]
  rfl

lemma ofFile_of_read {text : String} (hread : h.read path = .ok text) :
    ofFile standard h path = ofText standard text := by
  rw [ofFile, hread]
  rfl

lemma ofText_of_isWritten {text : String} (hwritten : IsWritten standard text s) :
    ofText standard text = s.validate.mapError .invalid := by
  rw [ofText, isWritten_iff.1 hwritten]

lemma ofText_of_not_isWritten {text : String} (hnot : ∀ s, ¬IsWritten standard text s) :
    ofText standard text = .error .illFormed := by
  have hnone : (Yaml.read? text >>= ofTree? standard) = none :=
    Option.eq_none_iff_forall_ne_some.2 fun s hs => hnot s (isWritten_iff.2 hs)
  rw [ofText, hnone]

lemma FileGives.ofFile_eq {r : Except LoadError Settings} (hgives : FileGives standard h path r) :
    ofFile standard h path = r := by
  rcases hgives with hread | ⟨hread, hnot⟩ | ⟨hread, hwritten, hdefect⟩ | ⟨hread, hwritten, hvalid⟩
  · exact ofFile_of_unreadable hread
  · rw [ofFile_of_read hread, ofText_of_not_isWritten hnot]
  · rw [ofFile_of_read hread, ofText_of_isWritten hwritten, hdefect.validate]
    rfl
  · rw [ofFile_of_read hread, ofText_of_isWritten hwritten, hvalid.validate]
    rfl

/-- Something comes of every file. -/
lemma exists_fileGives (standard : Settings) (h : Host) (path : String) :
    ∃ r, FileGives standard h path r := by
  cases hread : h.read path with
  | error e => exact ⟨_, .unreadable hread⟩
  | ok text =>
      by_cases hwritten : ∃ s, IsWritten standard text s
      · obtain ⟨s, hs⟩ := hwritten
        obtain hvalid | ⟨d, hdefect⟩ := s.isValid_or_hasDefect
        · exact ⟨_, .valid hread hs hvalid⟩
        · exact ⟨_, .invalid hread hs hdefect⟩
      · exact ⟨_, .illFormed hread (not_exists.1 hwritten)⟩

lemma fileGives_iff {r : Except LoadError Settings} :
    FileGives standard h path r ↔ ofFile standard h path = r := by
  refine ⟨FileGives.ofFile_eq, ?_⟩
  rintro rfl
  obtain ⟨r, hgives⟩ := exists_fileGives standard h path
  exact hgives.ofFile_eq ▸ hgives

/-- The settings in a file are valid. -/
lemma FileGives.isValid (hgives : FileGives standard h path (.ok s)) : s.IsValid := by
  obtain _ | _ | _ | ⟨-, -, hvalid⟩ := hgives
  exact hvalid

/-! ## Loading -/

/-- The settings before the environment overrides any, or the error of the file from which they
come. -/
inductive Chosen (standard : Settings) (h : Host) (explicit : Option String) :
    Except LoadError Settings → Prop
  | file {path : String} {r : Except LoadError Settings} : ComesFrom h explicit (some path) →
      FileGives standard h path r → Chosen standard h explicit r
  | byDefault : ComesFrom h explicit none → Chosen standard h explicit (.ok standard)

lemma Chosen.isValid (hstandard : standard.IsValid) (hchosen : Chosen standard h explicit (.ok s)) :
    s.IsValid := by
  obtain ⟨-, hgives⟩ | - := hchosen
  · exact hgives.isValid
  · exact hstandard

lemma exists_chosen (standard : Settings) (h : Host) (explicit : Option String) :
    ∃ r, Chosen standard h explicit r := by
  cases hplace : locate h explicit with
  | none => exact ⟨_, .byDefault (comesFrom_iff.2 hplace)⟩
  | some path =>
      obtain ⟨r, hgives⟩ := exists_fileGives standard h path
      exact ⟨r, .file (comesFrom_iff.2 hplace) hgives⟩

/-- Loading goes on with what has been chosen. -/
lemma Chosen.load_eq {r : Except LoadError Settings} (hchosen : Chosen standard h explicit r) :
    load standard h explicit =
      r.bind fun s => (s.withOverrides h.environment).validate.mapError .invalid := by
  rcases hchosen with ⟨hplace, hgives⟩ | hplace
  · rw [load, comesFrom_iff.1 hplace, ← hgives.ofFile_eq]
    rfl
  · rw [load, comesFrom_iff.1 hplace]
    rfl

/-- The check behind the overrides never fails. -/
lemma Chosen.load_eq_map (hstandard : standard.IsValid) {r : Except LoadError Settings}
    (hchosen : Chosen standard h explicit r) :
    load standard h explicit = r.map (·.withOverrides h.environment) := by
  rw [hchosen.load_eq]
  cases r with
  | error e => rfl
  | ok s =>
      have hvalid : (s.withOverrides h.environment).IsValid :=
        (overrides_iff.2 rfl).isValid (hchosen.isValid hstandard)
      show (s.withOverrides h.environment).validate.mapError LoadError.invalid = _
      rw [hvalid.validate]
      rfl

lemma IsValid.exists_agent (h : s.IsValid) (registry : NamingRegistry) :
    ∃ a, Agent.create s registry = .ok a ∧ a.settings = s ∧ a.registry = registry ∧
      Location.parse s.defaultFs = .ok a.resolver.defaultFs := by
  obtain ⟨l, hl⟩ := h.defaultFs
  exact ⟨_, Agent.create_of_parse hl registry, rfl, rfl, hl⟩

/-- Settings are loaded from the place that applies first, with what the environment overrides, and
are fit for use. -/
structure LoadsExactly (standard : Settings) (h : Host) (explicit : Option String) : Prop where
  /-- One place applies. -/
  place : ∃! place, ComesFrom h explicit place
  /-- A file gives one thing, either settings or an error. -/
  file : ∀ path, ∃! r, FileGives standard h path r
  /-- Loading fails with the error of the file at this place, and with no other. -/
  refused : ∀ e, load standard h explicit = .error e ↔ Chosen standard h explicit (.error e)
  /-- The settings are those at this place with what the environment overrides. -/
  loaded : ∀ s, load standard h explicit = .ok s ↔
    ∃ chosen, Chosen standard h explicit (.ok chosen) ∧ Overrides h.environment chosen s
  /-- They are valid, and with any registry they make an agent, which resolves bare paths on their
  default filesystem. -/
  usable : ∀ s, load standard h explicit = .ok s → s.IsValid ∧ ∀ registry,
    ∃ a, Agent.create s registry = .ok a ∧ a.settings = s ∧ a.registry = registry ∧
      Location.parse s.defaultFs = .ok a.resolver.defaultFs

lemma loadsExactly (hstandard : standard.IsValid) (h : Host) (explicit : Option String) :
    LoadsExactly standard h explicit := by
  obtain ⟨r, hr⟩ := exists_chosen standard h explicit
  have hload : load standard h explicit = r.map (·.withOverrides h.environment) :=
    hr.load_eq_map hstandard
  have hloaded : ∀ s, load standard h explicit = .ok s →
      ∃ chosen, Chosen standard h explicit (.ok chosen) ∧ Overrides h.environment chosen s := by
    intro s hs
    obtain ⟨chosen, rfl, hs⟩ := Except.map_eq_ok_iff.1 (hload.symm.trans hs)
    exact ⟨chosen, hr, overrides_iff.2 hs.symm⟩
  refine ⟨⟨_, comesFrom_iff.2 rfl, fun _ hplace => (comesFrom_iff.1 hplace).symm⟩,
    fun _ => ⟨_, fileGives_iff.2 rfl, fun _ hgives => (fileGives_iff.1 hgives).symm⟩,
    fun e => ⟨fun he => ?_, fun hchosen => hchosen.load_eq_map hstandard⟩,
    fun s => ⟨hloaded s, ?_⟩, fun s hs => ?_⟩
  · rw [hload] at he
    cases r with
    | error e' =>
        obtain rfl : e' = e := Except.error.inj he
        exact hr
    | ok chosen => cases he
  · rintro ⟨chosen, hchosen, hoverrides⟩
    rw [hchosen.load_eq_map hstandard, overrides_iff.1 hoverrides]
    rfl
  · obtain ⟨chosen, hchosen, hoverrides⟩ := hloaded s hs
    have hvalid : s.IsValid := hoverrides.isValid (hchosen.isValid hstandard)
    exact ⟨hvalid, hvalid.exists_agent⟩

lemma exists_location_of_load {parent : RunId} (hload : load (.standard parent) h explicit = .ok s) :
    ∃ l, Location.parse s.defaultFs = .ok l :=
  ((loadsExactly (isValid_standard parent) h explicit).usable s hload).1.defaultFs

/-- **Only settings that can be used are loaded**: they come from the place that applies first or
not at all, the environment overrides in them what it has a value for, and an agent can be made of
them.  Overriding never makes valid settings invalid. -/
theorem load_exact (parent : RunId) (h : Host) (explicit : Option String) :
    LoadsExactly (.standard parent) h explicit ∧
      ∀ (environment : String → Option String) (s t : Settings), s.IsValid →
        Overrides environment s t → t.IsValid :=
  ⟨loadsExactly (isValid_standard parent) h explicit, fun _ _ _ hs hoverrides =>
    hoverrides.isValid hs⟩

/-- The user's own file does not replace one that the environment names, even by an empty name. -/
example : load (.standard ⟨0⟩) ⟨fun name => if name = "LINEAGE_CONFIG" then some "" else none,
    fun _ => .error .missing, fun _ => true, some "/home"⟩ none = .error (.unreadable .missing) := by
  rfl

end Settings

end Provenance
