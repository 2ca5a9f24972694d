import CatalogBrowser.Proofs.StatedSettings

/-!
# Which files decode

A configuration file decodes if every setting that the browser knows has a value
of the right shape, in a group of the right shape. Keys that it does not know may
stand for anything. Which settings are there already makes no difference, so a fold
over a group succeeds just if each of its members fits by itself
(`exists_foldlM_eq_ok_iff`).

What a file has to satisfy is said without decoding it (`Config.Fits`), and with
what it states that settles the outcome: one configuration at most is stated by a
file (`Config.StatedBy.unique`), and if the file fits, that is the one it decodes
to (`Config.ofText_eq_ok_iff`).
-/

namespace CatalogBrowser

/-! ## Shapes -/

namespace Toml

/-- **A group of settings that may stand in an array**, each of which fits. A date or a time
in the place of a group states nothing. -/
def FitsGroup (keys : List String) (fits : String × Toml → Prop) : Toml → Prop
  | .table members => ∀ m ∈ members, fits m
  | .array items => ∀ m ∈ keys.zip items, fits m
  | .moment => True
  | _ => False

/-- **A group of settings that need their names**, each of which fits. -/
def FitsTable (fits : String × Toml → Prop) : Toml → Prop
  | .table members => ∀ m ∈ members, fits m
  | .moment => True
  | _ => False

end Toml

/-- **The path of the catalog fits** if it is a text. -/
def Config.PathFits (m : String × Toml) : Prop :=
  m.1 = "path" → ∃ path, m.2 = .string path

/-- What is said about the datasets fits if it is a truth value. -/
def TreeSettings.LeavesFit (m : String × Toml) : Prop :=
  m.1 = "stop_at_datasets" → ∃ b, m.2 = .boolean b

/-- What is hidden fits if it is a truth value. -/
def TreeSettings.HiddenFit (m : String × Toml) : Prop :=
  m.1 ∈ ["hide_datasets", "hide_spaces", "hide_sources", "hide_homes"] → ∃ b, m.2 = .boolean b

/-- **A setting of the tree fits** if it is a truth value. -/
def TreeSettings.Fits (m : String × Toml) : Prop :=
  m.1 ∈ ["stop_at_datasets", "hide_datasets", "hide_spaces", "hide_sources", "hide_homes"] →
    ∃ b, m.2 = .boolean b

/-- **A setting of the screen fits.** -/
def ScreenSettings.Fits (m : String × Toml) : Prop :=
  (m.1 = "show_wiki" → ∃ b, m.2 = .boolean b) ∧
  (m.1 = "locale" → ∃ name, m.2 = .string name) ∧
  (m.1 = "tick_rate_ms" → ∃ n : Nat, m.2 = .integer n)

/-- **A setting of the log fits** if it is a text. -/
def LogSettings.Fits (m : String × Toml) : Prop :=
  m.1 ∈ ["level", "file"] → ∃ text, m.2 = .string text

/-- **A member of a configuration file fits**: if it is a group that the browser knows, it is
a group whose settings fit. -/
def Config.Fits (m : String × Toml) : Prop :=
  (m.1 = "catalog" → m.2.FitsGroup ["path"] Config.PathFits) ∧
  (m.1 = "tree" → m.2.FitsTable TreeSettings.Fits) ∧
  (m.1 = "ui" → m.2.FitsGroup ["show_wiki", "locale", "tick_rate_ms"] ScreenSettings.Fits) ∧
  (m.1 = "logging" → m.2.FitsGroup ["level", "file"] LogSettings.Fits)

/-! ## Decoding -/

section

variable {ε α β : Type}

/-- Putting a decoded value in its place cannot fail, so only the decoding counts. -/
theorem exists_map_eq_ok_iff {x : Except ε α} {f : α → β} :
    (∃ b, f <$> x = Except.ok b) ↔ ∃ a, x = .ok a := by
  cases x <;> simp

/-- **A fold succeeds just if each member fits**, whatever state it starts from. The state
may carry settings along, but it must not decide. -/
theorem exists_foldlM_eq_ok_iff {step : α → β → Except ε α} {fits : β → Prop}
    (hstep : ∀ s m, (∃ s', step s m = .ok s') ↔ fits m) {members : List β} {s : α} :
    (∃ s', members.foldlM step s = .ok s') ↔ ∀ m ∈ members, fits m := by
  induction members generalizing s with
  | nil => exact ⟨fun _ m hm => absurd hm List.not_mem_nil, fun _ => ⟨s, rfl⟩⟩
  | cons m members ih =>
    rw [List.forall_mem_cons]
    constructor
    · rintro ⟨s', h⟩
      obtain ⟨t, ht, hfold⟩ := exists_of_bind_eq_ok h
      exact ⟨(hstep s m).1 ⟨t, ht⟩, ih.1 ⟨s', hfold⟩⟩
    · rintro ⟨hm, hmembers⟩
      obtain ⟨t, ht⟩ := (hstep s m).2 hm
      obtain ⟨s', hfold⟩ := (ih (s := t)).2 hmembers
      exact ⟨s', by rw [List.foldlM_cons, ht]; exact hfold⟩

end

namespace Toml

variable {v : Toml}

/-- **A group decodes just if its settings fit**, in a table by their names and in an array
by their places. -/
theorem exists_asGroup_eq_ok_iff {σ : Type} {expected : String} {keys : List String}
    {set : String → Toml → σ → Except Mismatch σ} {fits : String × Toml → Prop} {s : σ}
    (hset : ∀ s m, (∃ s', set m.1 m.2 s = .ok s') ↔ fits m) :
    (∃ s', v.asGroup expected keys set s = .ok s') ↔ v.FitsGroup keys fits := by
  cases v with
  | table members => exact exists_foldlM_eq_ok_iff hset
  | array items => exact exists_foldlM_eq_ok_iff hset
  | moment => exact ⟨fun _ => trivial, fun _ => ⟨s, rfl⟩⟩
  | string | integer | real | boolean =>
    refine ⟨?_, False.elim⟩
    rintro ⟨s', h⟩
    cases h

end Toml

/-- The path is the only setting of the catalog that is known. Other keys are passed over,
whatever their values are. -/
theorem Config.exists_setCatalog_eq_ok_iff (path : String) (m : String × Toml) :
    (∃ path', Config.setCatalog m.1 m.2 path = .ok path') ↔ Config.PathFits m := by
  unfold Config.setCatalog Config.PathFits
  split <;> simp_all [Toml.asText_eq_ok_iff]

/-- Each setting of the screen has a shape of its own. The settings that are there already
are kept in any case, and have no influence. -/
theorem ScreenSettings.exists_set_eq_ok_iff (s : ScreenSettings) (m : String × Toml) :
    (∃ s', ScreenSettings.set m.1 m.2 s = .ok s') ↔ ScreenSettings.Fits m := by
  unfold ScreenSettings.set ScreenSettings.Fits
  split <;> simp_all [exists_map_eq_ok_iff, Toml.asFlag_eq_ok_iff, Toml.asText_eq_ok_iff,
    Toml.asNatural_eq_ok_iff]

/-- Both settings of the log are texts. -/
theorem LogSettings.exists_set_eq_ok_iff (s : LogSettings) (m : String × Toml) :
    (∃ s', LogSettings.set m.1 m.2 s = .ok s') ↔ LogSettings.Fits m := by
  unfold LogSettings.set LogSettings.Fits
  split <;> simp_all [exists_map_eq_ok_iff, Toml.asText_eq_ok_iff]

namespace TreeSettings

/-- The first run over the settings of the tree only looks at one key. -/
theorem exists_setLeaves_eq_ok_iff (s : TreeSettings) (m : String × Toml) :
    (∃ s', s.setLeaves m = .ok s') ↔ LeavesFit m := by
  unfold setLeaves LeavesFit
  split <;> simp_all [exists_map_eq_ok_iff, Toml.asFlag_eq_ok_iff]

/-- The second run looks at four keys, and at the one of the first run no more. -/
theorem exists_setHidden_eq_ok_iff (s : TreeSettings) (m : String × Toml) :
    (∃ s', s.setHidden m = .ok s') ↔ HiddenFit m := by
  unfold setHidden HiddenFit
  split <;> simp_all [exists_map_eq_ok_iff, Toml.asFlag_eq_ok_iff]

/-- **The settings of the tree decode if each of the two runs does**, so all five have to
fit. In an array they have no names and are refused. -/
theorem exists_ofToml_eq_ok_iff {v : Toml} :
    (∃ s, ofToml v = .ok s) ↔ v.FitsTable TreeSettings.Fits := by
  cases v with
  | table members =>
    constructor
    · rintro ⟨s, h⟩ m hm hkey
      obtain ⟨t, hleaves, hhidden⟩ := exists_of_bind_eq_ok h
      rcases List.mem_cons.1 hkey with hkey | hkey
      · exact (exists_foldlM_eq_ok_iff exists_setLeaves_eq_ok_iff).1 ⟨t, hleaves⟩ m hm hkey
      · exact (exists_foldlM_eq_ok_iff exists_setHidden_eq_ok_iff).1 ⟨s, hhidden⟩ m hm hkey
    · intro h
      obtain ⟨t, hleaves⟩ := (exists_foldlM_eq_ok_iff exists_setLeaves_eq_ok_iff (s := {})).2
        fun m hm hkey => h m hm (List.mem_cons.2 (Or.inl hkey))
      obtain ⟨s, hhidden⟩ := (exists_foldlM_eq_ok_iff exists_setHidden_eq_ok_iff (s := t)).2
        fun m hm hkey => h m hm (List.mem_cons.2 (Or.inr hkey))
      exact ⟨s, by rw [ofToml, hleaves]; exact hhidden⟩
  | moment => exact ⟨fun _ => trivial, fun _ => ⟨{}, rfl⟩⟩
  | string | integer | real | boolean | array =>
    refine ⟨?_, False.elim⟩
    rintro ⟨s', h⟩
    cases h

end TreeSettings

namespace Config

/-- **A member is taken up just if it fits**, whatever was taken up before. Members that
are no group of the browser always do. -/
theorem exists_setGroup_eq_ok_iff (c : Config) (m : String × Toml) :
    (∃ c', c.setGroup m = .ok c') ↔ Config.Fits m := by
  unfold setGroup Config.Fits
  split <;> simp_all [exists_map_eq_ok_iff, TreeSettings.exists_ofToml_eq_ok_iff,
    Toml.exists_asGroup_eq_ok_iff ScreenSettings.exists_set_eq_ok_iff,
    Toml.exists_asGroup_eq_ok_iff LogSettings.exists_set_eq_ok_iff,
    Toml.exists_asGroup_eq_ok_iff exists_setCatalog_eq_ok_iff]

/-! ## What a file decodes to -/

variable {members : List (String × Toml)} {below c c' : Config}

/-- **A file states one configuration** over what lies below. Every setting is layered, and
no two values lie over the same. -/
theorem StatedBy.unique (h : StatedBy members below c) (h' : StatedBy members below c') :
    c = c' := by
  obtain ⟨path, ⟨leaves, ⟨datasets, spaces, sources, homes⟩⟩, ⟨wiki, locale, rate⟩,
    ⟨level, file⟩⟩ := c
  obtain ⟨path', ⟨leaves', ⟨datasets', spaces', sources', homes'⟩⟩, ⟨wiki', locale', rate'⟩,
    ⟨level', file'⟩⟩ := c'
  cases h.catalogPath.unique h'.catalogPath
  cases h.datasetsAreLeaves.unique h'.datasetsAreLeaves
  cases h.datasets.unique h'.datasets
  cases h.spaces.unique h'.spaces
  cases h.sources.unique h'.sources
  cases h.homes.unique h'.homes
  cases h.showWiki.unique h'.showWiki
  cases h.locale.unique h'.locale
  cases h.tickRate.unique h'.tickRate
  cases h.level.unique h'.level
  cases h.file.unique h'.file
  rfl

/-- **A file decodes to a configuration** just if it fits and states this one. So the
outcome is known without decoding it. -/
theorem ofText_eq_ok_iff {text : String} (hparse : Toml.parse? text = some members) :
    ofText text = .ok c ↔ (∀ m ∈ members, Config.Fits m) ∧ StatedBy members {} c := by
  have hkeys := Toml.keysOnce_of_parse? hparse
  have hfits : (∃ c, members.foldlM setGroup {} = .ok c) ↔ ∀ m ∈ members, Config.Fits m :=
    exists_foldlM_eq_ok_iff exists_setGroup_eq_ok_iff
  rw [ofText_of_parse? hparse, ← hfits]
  constructor
  · intro h
    cases hfold : members.foldlM setGroup {} with
    | error m =>
      rw [hfold] at h
      cases h
    | ok c' =>
      rw [hfold] at h
      cases h
      exact ⟨⟨c, rfl⟩, statedBy_of_foldlM hkeys hfold⟩
  · rintro ⟨⟨c', hfold⟩, hstated⟩
    rw [hfold, (statedBy_of_foldlM hkeys hfold).unique hstated]
    rfl

/-- The settings of the screen may stand in an array, and what is missing there is as nobody
set it. -/
example : ofText "ui = [false]\ntheme = 1\n[tree]\nhide_homes = true\n"
    = .ok { tree.hidden.homes := true, screen.showWiki := false } := by
  decide +kernel

end Config

end CatalogBrowser
