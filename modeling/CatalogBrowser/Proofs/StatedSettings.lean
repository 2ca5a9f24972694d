import CatalogBrowser.Config.Loading
import CatalogBrowser.Proofs.DistinctKeys

/-!
# The settings a file states

A configuration file is decoded group by group, and a group value by value. Each
step changes one setting at most, but the fold over a group starts from whatever
an earlier step has left, so what a setting is in the end depends on how often its
key occurs. What saves the reading is that no table gives a key twice
(`Toml.keysOnce_of_parse?`): at its key a setting is still what it was at the
beginning, and after it nothing touches it any more.

So a setting is **layered** (`Layered`): it is what the file states, and where the
file states nothing, what lies below. A step takes up one setting
(`TakesUp`), once inside a group and once for the group as a whole, and the same
lemma about folds (`TakesUp.layered`) serves both levels. Together the settings of
a file that decodes are the ones it states (`Config.statedBy_of_foldlM`).
-/

namespace CatalogBrowser

/-! ## Layers -/

/-- **A value with a layer above it**: what the layer gives, and what lies below where
the layer gives nothing. -/
structure Layered {α : Type} (gives : α → Prop) (below value : α) : Prop where
  /-- What the layer gives is the value. -/
  eq_of_given : ∀ a, gives a → value = a
  /-- Where it gives nothing, the value is what lies below. -/
  eq_below : (∀ a, ¬ gives a) → value = below

namespace Layered

variable {α : Type} {gives gives' : α → Prop} {below value : α}

/-- What a layer gives may be said in another way. The steps say it of one value, and the
results of all members of a group. -/
theorem congr (h : Layered gives below value) (hiff : ∀ a, gives' a ↔ gives a) :
    Layered gives' below value where
  eq_of_given a ha := h.eq_of_given a ((hiff a).1 ha)
  eq_below hnone := h.eq_below fun a ha => hnone a ((hiff a).2 ha)

/-- A layer that gives the value, and nothing else. -/
theorem of_gives (h : gives value) (hunique : ∀ a, gives a → value = a) :
    Layered gives below value where
  eq_of_given := hunique
  eq_below hnone := absurd h (hnone value)

/-- There is one value with a given layer above what lies below. So two ways of putting
settings together agree as soon as both are layered. -/
theorem unique {value' : α} (h : Layered gives below value) (h' : Layered gives below value') :
    value = value' := by
  by_cases hgives : ∃ a, gives a
  · obtain ⟨a, ha⟩ := hgives
    rw [h.eq_of_given a ha, h'.eq_of_given a ha]
  · rw [h.eq_below (not_exists.1 hgives), h'.eq_below (not_exists.1 hgives)]

/-- A layer that gives nothing leaves what lies below. -/
theorem of_not_gives (h : ∀ a, ¬ gives a) : Layered gives below below where
  eq_of_given a ha := absurd ha (h a)
  eq_below _ := rfl

end Layered

/-- **A computation that succeeds has succeeded step by step.** All decoding is taken apart
this way, so that no lemma has to look into the functions it is made of. -/
theorem exists_of_bind_eq_ok {ε α β : Type} {x : Except ε α} {f : α → Except ε β} {b : β}
    (h : (x >>= f) = .ok b) : ∃ a, x = .ok a ∧ f a = .ok b := by
  cases x with
  | error e => cases h
  | ok a => exact ⟨a, rfl, h⟩

/-! ## Taking up one setting -/

namespace Toml

/-- **The settings in a group**, each with its key. In an array they stand in the order
of `keys`. -/
def settings (keys : List String) : Toml → List (String × Toml)
  | .table members => members
  | .array items => keys.zip items
  | _ => []

variable {σ : Type} {keys : List String} {v : Toml}

/-- The settings in a group are given once as well. In a table they are, because the file
gives each key once, and in an array, because each place stands for another key. -/
theorem KeysOnce.settings (h : v.KeysOnce) (hkeys : keys.Nodup) :
    (Toml.table (v.settings keys)).KeysOnce := by
  cases h with
  | table hkeys' h => exact .table hkeys' h
  | @array items h =>
    refine .table ?_ fun m hm => h m.2 (List.of_mem_zip hm).2
    show ((keys.zip items).map Prod.fst).Nodup
    rw [List.zip_eq_zip_take_min, List.map_fst_zip (by simp)]
    exact (List.take_sublist _ keys).nodup hkeys
  | string | integer | real | boolean | moment =>
    exact .table List.nodup_nil fun m hm => absurd hm List.not_mem_nil

/-- **A group that decodes was taken up setting by setting.** Tables and arrays are folded
in the same way from here on, and a date gives a group without settings. -/
theorem foldlM_of_asGroup {expected : String} {set : String → Toml → σ → Except Mismatch σ}
    {s s' : σ} (h : v.asGroup expected keys set s = .ok s') :
    (v.settings keys).foldlM (fun s m => set m.1 m.2 s) s = .ok s' := by
  cases v with
  | table members => exact h
  | array items => exact h
  | moment => exact h
  | string | integer | real | boolean => cases h

/-- There is one way for a value to be a truth value. Words and numbers are not taken for
one. -/
theorem asFlag_eq_ok_iff {b : Bool} : v.asFlag = .ok b ↔ v = .boolean b := by
  cases v <;> simp [asFlag, refuse]

/-- There is one way for a value to be a text, whatever it is called in a fault. -/
theorem asText_eq_ok_iff {expected text : String} :
    v.asText expected = .ok text ↔ v = .string text := by
  cases v <;> simp [asText, refuse]

/-- A number below zero is a number of the file, but none that a setting takes. -/
theorem asNatural_eq_ok_iff {n : Nat} : v.asNatural = .ok n ↔ v = .integer n := by
  cases v with
  | integer i =>
    rw [asNatural, integer.injEq]
    split
    · simp only [reduceCtorEq, false_iff]
      omega
    · rw [Except.ok.injEq]
      omega
  | string | boolean | real | moment | array | table => simp [asNatural, refuse]

end Toml

section Steps

variable {σ α : Type} {step : σ → String × Toml → Except Mismatch σ} {key : String}
  {gives : Toml → α → Prop} {field : σ → α} {below : α} {members : List (String × Toml)} {s s' : σ}

/-- What no step changes, the fold does not change. It serves fields as well as groups of
them. -/
theorem foldlM_frame {β : Type} {step : σ → β → Except Mismatch σ} {members : List β}
    (hstep : ∀ m ∈ members, ∀ s s', step s m = .ok s' → field s' = field s)
    (hfold : members.foldlM step s = .ok s') : field s' = field s := by
  induction members generalizing s with
  | nil => cases hfold; rfl
  | cons m members ih =>
    obtain ⟨t, ht, hfold⟩ := exists_of_bind_eq_ok hfold
    rw [ih (fun m hm => hstep m (List.mem_cons_of_mem _ hm)) hfold,
      hstep m List.mem_cons_self s t ht]

/-- **A step takes up a setting** at one key. At this key the setting becomes what the
value gives, if it was what lies below, and at every other key it stays what it is. -/
structure TakesUp (step : σ → String × Toml → Except Mismatch σ) (key : String)
    (gives : Toml → α → Prop) (field : σ → α) (below : α) : Prop where
  at_key : ∀ {s s' v}, v.KeysOnce → field s = below → step s (key, v) = .ok s' →
    Layered (gives v) below (field s')
  elsewhere : ∀ {s s' k v}, k ≠ key → step s (k, v) = .ok s' → field s' = field s

namespace TakesUp

/-- Members with other keys leave the setting as it is, however many there are. -/
theorem foldlM_eq (h : TakesUp step key gives field below)
    (hkey : ∀ v, (key, v) ∉ members) (hfold : members.foldlM step s = .ok s') :
    field s' = field s := by
  refine foldlM_frame (fun m hm s s' hs => h.elsewhere (fun hk => ?_) hs) hfold
  exact hkey m.2 (hk ▸ hm)

/-- **A setting is layered over what it was** where each key is given once. Up to its key
it is what lies below, at its key it becomes what the value gives, and nothing changes it
any more after that. -/
theorem layered (h : TakesUp step key gives field below)
    (hmembers : (Toml.table members).KeysOnce) (hbelow : field s = below)
    (hfold : members.foldlM step s = .ok s') :
    Layered (fun a => ∃ v, (key, v) ∈ members ∧ gives v a) below (field s') := by
  by_cases hkey : ∃ v, (key, v) ∈ members
  · obtain ⟨v, hv⟩ := hkey
    have hunique : ∀ w, (key, w) ∈ members → w = v := fun w hw => hmembers.value_unique hw hv
    have hvalue : v.KeysOnce := hmembers.of_mem hv
    obtain ⟨front, back, rfl⟩ := List.append_of_mem hv
    -- The key comes neither before nor after, so nothing else changes the setting.
    have hnone : ∀ w, (key, w) ∉ front ++ back := fun w hw => by
      have hnodup := hmembers.nodup
      rw [List.map_append, List.map_cons, List.nodup_middle, List.nodup_cons, ← List.map_append]
        at hnodup
      exact hnodup.1 (List.mem_map.2 ⟨(key, w), hw, rfl⟩)
    rw [List.foldlM_append] at hfold
    obtain ⟨t, hfront, hfold⟩ := exists_of_bind_eq_ok hfold
    obtain ⟨u, hstep, hback⟩ := exists_of_bind_eq_ok hfold
    have ht : field t = below :=
      (h.foldlM_eq (fun w hw => hnone w (List.mem_append_left back hw)) hfront).trans hbelow
    rw [h.foldlM_eq (fun w hw => hnone w (List.mem_append_right front hw)) hback]
    refine (h.at_key hvalue ht hstep).congr fun a => ⟨?_, fun ha => ⟨v, hv, ha⟩⟩
    rintro ⟨w, hw, ha⟩
    exact hunique w hw ▸ ha
  · rw [h.foldlM_eq (not_exists.1 hkey) hfold, hbelow]
    exact .of_not_gives fun a ⟨v, hv, _⟩ => hkey ⟨v, hv⟩

/-- A step that decodes the value at its key and puts the result in place takes up what
this makes of the setting. -/
theorem of_decode {τ : Type} {decode : σ → Toml → Except Mismatch τ} (put : σ → τ → σ)
    (hstep : ∀ s v, step s (key, v) = do pure (put s (← decode s v)))
    (hdecode : ∀ {s v t}, v.KeysOnce → field s = below → decode s v = .ok t →
      Layered (gives v) below (field (put s t)))
    (helsewhere : ∀ {s s' k v}, k ≠ key → step s (k, v) = .ok s' → field s' = field s) :
    TakesUp step key gives field below where
  at_key {s s' v} hv hbelow h := by
    obtain ⟨t, ht, hs⟩ := exists_of_bind_eq_ok ((hstep s v).symm.trans h)
    rw [← Except.ok.inj hs]
    exact hdecode hv hbelow ht
  elsewhere := helsewhere

/-- A value of its own is all that there is to decode. That it gives one thing has to be
said, since the layer must not give another value too. -/
theorem of_read {τ : Type} {read : Toml → Except Mismatch τ} (put : σ → τ → σ)
    (hstep : ∀ s v, step s (key, v) = do pure (put s (← read v)))
    (hgives : ∀ {s v t}, read v = .ok t → gives v (field (put s t)))
    (hunique : ∀ {v a a'}, gives v a → gives v a' → a = a')
    (helsewhere : ∀ {s s' k v}, k ≠ key → step s (k, v) = .ok s' → field s' = field s) :
    TakesUp step key gives field below :=
  .of_decode put hstep (fun _ _ h => .of_gives (hgives h) fun _ => hunique (hgives h)) helsewhere

/-- The same for a truth value. -/
theorem of_flag {field : σ → Bool} {below : Bool} (put : σ → Bool → σ)
    (hstep : ∀ s v, step s (key, v) = do pure (put s (← v.asFlag)))
    (hput : ∀ s b, field (put s b) = b)
    (helsewhere : ∀ {s s' k v}, k ≠ key → step s (k, v) = .ok s' → field s' = field s) :
    TakesUp step key (fun v b => v = .boolean b) field below :=
  .of_read put hstep (fun h => (hput _ _).symm ▸ Toml.asFlag_eq_ok_iff.1 h)
    (fun h h' => Toml.boolean.inj (h.symm.trans h')) helsewhere

/-- The same for a text. -/
theorem of_text {expected : String} {field : σ → String} {below : String} (put : σ → String → σ)
    (hstep : ∀ s v, step s (key, v) = do pure (put s (← v.asText expected)))
    (hput : ∀ s text, field (put s text) = text)
    (helsewhere : ∀ {s s' k v}, k ≠ key → step s (k, v) = .ok s' → field s' = field s) :
    TakesUp step key (fun v text => v = .string text) field below :=
  .of_read put hstep (fun h => (hput _ _).symm ▸ Toml.asText_eq_ok_iff.1 h)
    (fun h h' => Toml.string.inj (h.symm.trans h')) helsewhere

/-- **A setting of a group is layered** over what it was before the group. -/
theorem layered_asGroup {expected : String} {keys : List String}
    {set : String → Toml → σ → Except Mismatch σ} {v : Toml}
    (h : TakesUp (fun s m => set m.1 m.2 s) key gives field below) (hkeys : keys.Nodup)
    (hv : v.KeysOnce) (hbelow : field s = below) (hgroup : v.asGroup expected keys set s = .ok s') :
    Layered (fun a => ∃ w, (key, w) ∈ v.settings keys ∧ gives w a) below (field s') :=
  h.layered (hv.settings hkeys) hbelow (Toml.foldlM_of_asGroup hgroup)

end TakesUp

end Steps

/-! ## The settings of each group -/

/-- The group of the catalog consists of one setting, which is the path itself. -/
theorem Config.takesUp_path (below : String) :
    TakesUp (fun path m => Config.setCatalog m.1 m.2 path) "path"
      (fun v text => v = .string text) id below :=
  .of_text (fun _ path => path) (fun _ _ => (bind_pure _).symm) (fun _ _ => rfl)
    fun hk h => by
      unfold Config.setCatalog at h
      split at h
      · contradiction
      · exact (Except.ok.inj h).symm

namespace TreeSettings

variable {s s' : TreeSettings} {m : String × Toml} {v : Toml}

/-- What is hidden stays while it is settled what is a leaf, and so the second run starts
from what nobody set. -/
theorem setLeaves_frame (h : s.setLeaves m = .ok s') : s'.hidden = s.hidden := by
  unfold setLeaves at h
  split at h
  · obtain ⟨b, -, hs⟩ := exists_of_bind_eq_ok h
    rw [← Except.ok.inj hs]
  · rw [Except.ok.inj h]

/-- Each key hides one kind of entries, and none of them says anything about leaves. -/
theorem setHidden_frame (h : s.setHidden m = .ok s') :
    s'.datasetsAreLeaves = s.datasetsAreLeaves ∧
      (m.1 ≠ "hide_datasets" → s'.hidden.datasets = s.hidden.datasets) ∧
      (m.1 ≠ "hide_spaces" → s'.hidden.spaces = s.hidden.spaces) ∧
      (m.1 ≠ "hide_sources" → s'.hidden.sources = s.hidden.sources) ∧
      (m.1 ≠ "hide_homes" → s'.hidden.homes = s.hidden.homes) := by
  unfold setHidden at h
  split at h
  case h_5 => cases h; simp
  all_goals
    obtain ⟨b, -, hs⟩ := exists_of_bind_eq_ok h
    cases hs
    simp_all

/-- The first run over the settings of the tree takes up one of them. -/
theorem takesUp_leaves (below : Bool) :
    TakesUp setLeaves "stop_at_datasets" (fun v b => v = .boolean b) (·.datasetsAreLeaves) below :=
  .of_flag (fun s b => { s with datasetsAreLeaves := b }) (fun _ _ => rfl) (fun _ _ => rfl)
    fun hk h => by
      unfold setLeaves at h
      split at h
      · contradiction
      · rw [Except.ok.inj h]

/-- The second run takes up the other four, each by a key of its own. This is the first of
them. -/
theorem takesUp_datasets (below : Bool) :
    TakesUp setHidden "hide_datasets" (fun v b => v = .boolean b) (·.hidden.datasets) below :=
  .of_flag (fun s b => { s with hidden := { s.hidden with datasets := b } }) (fun _ _ => rfl)
    (fun _ _ => rfl) fun hk h => (setHidden_frame h).2.1 hk

/-- The same for spaces. It is a lemma of its own because the key and the field go
together, and a field under the wrong key would be seen here. -/
theorem takesUp_spaces (below : Bool) :
    TakesUp setHidden "hide_spaces" (fun v b => v = .boolean b) (·.hidden.spaces) below :=
  .of_flag (fun s b => { s with hidden := { s.hidden with spaces := b } }) (fun _ _ => rfl)
    (fun _ _ => rfl) fun hk h => (setHidden_frame h).2.2.1 hk

/-- The same for sources. -/
theorem takesUp_sources (below : Bool) :
    TakesUp setHidden "hide_sources" (fun v b => v = .boolean b) (·.hidden.sources) below :=
  .of_flag (fun s b => { s with hidden := { s.hidden with sources := b } }) (fun _ _ => rfl)
    (fun _ _ => rfl) fun hk h => (setHidden_frame h).2.2.2.1 hk

/-- The same for homes. -/
theorem takesUp_homes (below : Bool) :
    TakesUp setHidden "hide_homes" (fun v b => v = .boolean b) (·.hidden.homes) below :=
  .of_flag (fun s b => { s with hidden := { s.hidden with homes := b } }) (fun _ _ => rfl)
    (fun _ _ => rfl) fun hk h => (setHidden_frame h).2.2.2.2 hk

/-- **A tree that decodes was taken up in two runs** over its settings, the second one from
what the first one left. No setting is taken up by both. -/
theorem exists_runs_of_ofToml (h : ofToml v = .ok s) :
    ∃ t, (v.settings []).foldlM setLeaves {} = .ok t ∧
      (v.settings []).foldlM setHidden t = .ok s := by
  cases v with
  | table members => exact exists_of_bind_eq_ok h
  | moment => exact ⟨{}, rfl, h⟩
  | string | integer | real | boolean | array => cases h

/-- **What is a leaf is settled by the first run**, and the second one does not touch it. -/
theorem layered_leaves (hv : v.KeysOnce) (h : ofToml v = .ok s) :
    Layered (fun b => ∃ w, ("stop_at_datasets", w) ∈ v.settings [] ∧ w = .boolean b) false
      s.datasetsAreLeaves := by
  obtain ⟨t, hleaves, hhidden⟩ := exists_runs_of_ofToml h
  have hs : s.datasetsAreLeaves = t.datasetsAreLeaves :=
    foldlM_frame (fun _ _ _ _ hs => (setHidden_frame hs).1) hhidden
  rw [hs]
  exact (takesUp_leaves false).layered (hv.settings List.nodup_nil) rfl hleaves

/-- The run that takes up what is hidden starts where nothing is. It is said for any of the
four kinds, by its key and its field. -/
theorem layered_hidden {key : String} (field : Hidden → Bool)
    (htakes : TakesUp setHidden key (fun v b => v = .boolean b) (field ·.hidden) (field {}))
    (hv : v.KeysOnce) (h : ofToml v = .ok s) :
    Layered (fun b => ∃ w, (key, w) ∈ v.settings [] ∧ w = .boolean b) (field {})
      (field s.hidden) := by
  obtain ⟨t, hleaves, hhidden⟩ := exists_runs_of_ofToml h
  have ht : t.hidden = {} := foldlM_frame (fun _ _ _ _ => setLeaves_frame) hleaves
  exact htakes.layered (hv.settings List.nodup_nil) (congrArg field ht) hhidden

end TreeSettings

namespace ScreenSettings

/-- Each key of the screen changes one setting. What is known of a step is only ever this
and what it does at its own key. -/
theorem set_frame {key : String} {v : Toml} {s s' : ScreenSettings} (h : set key v s = .ok s') :
    (key ≠ "show_wiki" → s'.showWiki = s.showWiki) ∧ (key ≠ "locale" → s'.locale = s.locale) ∧
      (key ≠ "tick_rate_ms" → s'.tickRate = s.tickRate) := by
  unfold set at h
  split at h
  case h_4 => cases h; simp
  all_goals
    obtain ⟨a, -, hs⟩ := exists_of_bind_eq_ok h
    cases hs
    simp_all

/-- Whether the wiki is offered is taken up at its key. -/
theorem takesUp_showWiki (below : Bool) :
    TakesUp (fun s m => set m.1 m.2 s) "show_wiki" (fun v b => v = .boolean b) (·.showWiki) below :=
  .of_flag (fun s b => { s with showWiki := b }) (fun _ _ => rfl) (fun _ _ => rfl)
    fun hk h => (set_frame h).1 hk

/-- The locale is taken up at its key, whether there are texts for it or not. -/
theorem takesUp_locale (below : String) :
    TakesUp (fun s m => set m.1 m.2 s) "locale" (fun v name => v = .string name) (·.locale) below :=
  .of_text (fun s name => { s with locale := name }) (fun _ _ => rfl) (fun _ _ => rfl)
    fun hk h => (set_frame h).2.1 hk

/-- The number of milliseconds is the one setting of the screen that is a number. Two
numbers are the same if the values are. -/
theorem takesUp_tickRate (below : Nat) :
    TakesUp (fun s m => set m.1 m.2 s) "tick_rate_ms" (fun v (n : Nat) => v = .integer n)
      (·.tickRate) below :=
  .of_read (fun s n => { s with tickRate := n }) (fun _ _ => rfl) Toml.asNatural_eq_ok_iff.1
    (fun h h' => Int.ofNat.inj (Toml.integer.inj (h.symm.trans h')))
    fun hk h => (set_frame h).2.2 hk

end ScreenSettings

namespace LogSettings

/-- Each key of the log changes one setting. -/
theorem set_frame {key : String} {v : Toml} {s s' : LogSettings} (h : set key v s = .ok s') :
    (key ≠ "level" → s'.level = s.level) ∧ (key ≠ "file" → s'.file = s.file) := by
  unfold set at h
  split at h
  case h_3 => cases h; simp
  all_goals
    obtain ⟨a, -, hs⟩ := exists_of_bind_eq_ok h
    cases hs
    simp_all

/-- The filter is taken up as it is written. Whether it reads is no matter of decoding. -/
theorem takesUp_level (below : String) :
    TakesUp (fun s m => set m.1 m.2 s) "level" (fun v level => v = .string level) (·.level) below :=
  .of_text (fun s level => { s with level }) (fun _ _ => rfl) (fun _ _ => rfl)
    fun hk h => (set_frame h).1 hk

/-- The file of the log is missing unless a file gives it, so what is taken up is that
there is one. -/
theorem takesUp_file (below : Option String) :
    TakesUp (fun s m => set m.1 m.2 s) "file"
      (fun v file => ∃ path, file = some path ∧ v = .string path) (·.file) below :=
  .of_read (fun s path => { s with file := some path }) (fun _ _ => rfl)
    (fun h => ⟨_, rfl, Toml.asText_eq_ok_iff.1 h⟩)
    (by
      rintro v file file' ⟨path, rfl, rfl⟩ ⟨path', rfl, h⟩
      rw [Toml.string.inj h])
    fun hk h => (set_frame h).2 hk

end LogSettings

namespace Config

variable {α : Type} {key : String} {gives : Toml → α → Prop} {c c' : Config}
  {m : String × Toml} {v : Toml}

/-- **Each group changes its own settings**, and a member that is no group changes none. -/
theorem setGroup_frame (h : c.setGroup m = .ok c') :
    (m.1 ≠ "catalog" → c'.catalogPath = c.catalogPath) ∧ (m.1 ≠ "tree" → c'.tree = c.tree) ∧
      (m.1 ≠ "ui" → c'.screen = c.screen) ∧ (m.1 ≠ "logging" → c'.log = c.log) := by
  unfold setGroup at h
  split at h
  case h_5 => cases h; simp
  all_goals
    obtain ⟨a, -, hs⟩ := exists_of_bind_eq_ok h
    cases hs
    simp_all

/-- The path is layered over the default by the group of the catalog, and inside the group
by its key. Both layers are the same lemma. -/
theorem takesUp_catalog (below : String) :
    TakesUp setGroup "catalog"
      (fun v text => ∃ w, ("path", w) ∈ v.settings ["path"] ∧ w = .string text)
      (·.catalogPath) below :=
  .of_decode (fun c catalogPath => { c with catalogPath }) (fun _ _ => rfl)
    (fun hv hbelow h =>
      (takesUp_path below).layered_asGroup (List.nodup_singleton _) hv hbelow h)
    fun hk h => (setGroup_frame h).1 hk

/-- **A setting of the tree**, as the tree's table gives it, is one of the file's. -/
theorem takesUp_tree (field : TreeSettings → α)
    (h : ∀ {v s}, v.KeysOnce → TreeSettings.ofToml v = .ok s →
      Layered (gives v) (field {}) (field s)) :
    TakesUp setGroup "tree" gives (field ·.tree) (field {}) :=
  .of_decode (fun c tree => { c with tree }) (fun _ _ => rfl) (fun hv _ => h hv)
    fun hk h => congrArg field ((setGroup_frame h).2.1 hk)

/-- A setting of the screen, as the group gives it, is one of the file's. The group starts
from the settings nobody set, not from those of a group before it, and there is none before
it. -/
theorem takesUp_ui {field : ScreenSettings → α}
    (h : TakesUp (fun s m => ScreenSettings.set m.1 m.2 s) key gives field (field {})) :
    TakesUp setGroup "ui"
      (fun v a => ∃ w, (key, w) ∈ v.settings ["show_wiki", "locale", "tick_rate_ms"] ∧ gives w a)
      (field ·.screen) (field {}) :=
  .of_decode (fun c screen => { c with screen }) (fun _ _ => rfl)
    (fun hv _ hgroup => h.layered_asGroup (by decide) hv rfl hgroup)
    fun hk h => congrArg field ((setGroup_frame h).2.2.1 hk)

/-- A setting of the log, as the group gives it, is one of the file's. -/
theorem takesUp_logging {field : LogSettings → α}
    (h : TakesUp (fun s m => LogSettings.set m.1 m.2 s) key gives field (field {})) :
    TakesUp setGroup "logging"
      (fun v a => ∃ w, (key, w) ∈ v.settings ["level", "file"] ∧ gives w a)
      (field ·.log) (field {}) :=
  .of_decode (fun c log => { c with log }) (fun _ _ => rfl)
    (fun hv _ hgroup => h.layered_asGroup (by decide) hv rfl hgroup)
    fun hk h => congrArg field ((setGroup_frame h).2.2.2 hk)

/-! ## All settings of a file -/

/-- **A file states a value for a setting** of a group. -/
def States (members : List (String × Toml)) (group : String) (keys : List String)
    (key : String) (w : Toml) : Prop :=
  ∃ v, (group, v) ∈ members ∧ (key, w) ∈ v.settings keys

/-- **Settings as a file states them**, over those that hold where it states nothing. The
settings of the tree need their names. -/
structure StatedBy (members : List (String × Toml)) (below c : Config) : Prop where
  catalogPath : Layered (fun path => States members "catalog" ["path"] "path" (.string path))
    below.catalogPath c.catalogPath
  datasetsAreLeaves : Layered (fun b => States members "tree" [] "stop_at_datasets" (.boolean b))
    below.tree.datasetsAreLeaves c.tree.datasetsAreLeaves
  datasets : Layered (fun b => States members "tree" [] "hide_datasets" (.boolean b))
    below.tree.hidden.datasets c.tree.hidden.datasets
  spaces : Layered (fun b => States members "tree" [] "hide_spaces" (.boolean b))
    below.tree.hidden.spaces c.tree.hidden.spaces
  sources : Layered (fun b => States members "tree" [] "hide_sources" (.boolean b))
    below.tree.hidden.sources c.tree.hidden.sources
  homes : Layered (fun b => States members "tree" [] "hide_homes" (.boolean b))
    below.tree.hidden.homes c.tree.hidden.homes
  showWiki : Layered
    (fun b => States members "ui" ["show_wiki", "locale", "tick_rate_ms"] "show_wiki" (.boolean b))
    below.screen.showWiki c.screen.showWiki
  locale : Layered
    (fun name => States members "ui" ["show_wiki", "locale", "tick_rate_ms"] "locale"
      (.string name))
    below.screen.locale c.screen.locale
  tickRate : Layered
    (fun n : Nat => States members "ui" ["show_wiki", "locale", "tick_rate_ms"] "tick_rate_ms"
      (.integer n))
    below.screen.tickRate c.screen.tickRate
  level : Layered
    (fun level => States members "logging" ["level", "file"] "level" (.string level))
    below.log.level c.log.level
  file : Layered
    (fun file => ∃ path, file = some path ∧
      States members "logging" ["level", "file"] "file" (.string path))
    below.log.file c.log.file

variable {members : List (String × Toml)} {group : String} {keys : List String}

/-- A setting that a step takes up is layered over its default. Only here the two levels
are put together, a group in the file and a key in the group. -/
theorem layered_states {field : Config → α} {below : α} {write : α → Toml}
    (h : TakesUp setGroup group (fun v a => ∃ w, (key, w) ∈ v.settings keys ∧ w = write a)
      field below)
    (hmembers : (Toml.table members).KeysOnce) (hbelow : field {} = below)
    (hfold : members.foldlM setGroup {} = .ok c) :
    Layered (fun a => States members group keys key (write a)) below (field c) :=
  (h.layered hmembers hbelow hfold).congr fun a => by simp only [States, exists_eq_right]

/-- **The settings of a file that decodes are those that it states**, over the defaults.
Each of the eleven is a case of one lemma, by its group, its key and its shape. -/
theorem statedBy_of_foldlM (hmembers : (Toml.table members).KeysOnce)
    (hfold : members.foldlM setGroup {} = .ok c) : StatedBy members {} c where
  catalogPath := layered_states (takesUp_catalog _) hmembers rfl hfold
  datasetsAreLeaves :=
    layered_states (takesUp_tree _ TreeSettings.layered_leaves) hmembers rfl hfold
  datasets := layered_states (takesUp_tree (·.hidden.datasets)
    (TreeSettings.layered_hidden (·.datasets) (TreeSettings.takesUp_datasets _))) hmembers rfl hfold
  spaces := layered_states (takesUp_tree (·.hidden.spaces)
    (TreeSettings.layered_hidden (·.spaces) (TreeSettings.takesUp_spaces _))) hmembers rfl hfold
  sources := layered_states (takesUp_tree (·.hidden.sources)
    (TreeSettings.layered_hidden (·.sources) (TreeSettings.takesUp_sources _))) hmembers rfl hfold
  homes := layered_states (takesUp_tree (·.hidden.homes)
    (TreeSettings.layered_hidden (·.homes) (TreeSettings.takesUp_homes _))) hmembers rfl hfold
  showWiki := layered_states (takesUp_ui (ScreenSettings.takesUp_showWiki _)) hmembers rfl hfold
  locale := layered_states (takesUp_ui (ScreenSettings.takesUp_locale _)) hmembers rfl hfold
  tickRate := layered_states (takesUp_ui (ScreenSettings.takesUp_tickRate _)) hmembers rfl hfold
  level := layered_states (takesUp_logging (LogSettings.takesUp_level _)) hmembers rfl hfold
  file :=
    ((takesUp_logging (LogSettings.takesUp_file _)).layered hmembers rfl hfold).congr fun file => by
      constructor
      · rintro ⟨path, hfile, v, hv, hw⟩
        exact ⟨v, hv, .string path, hw, path, hfile, rfl⟩
      · rintro ⟨v, hv, _, hw, path, hfile, rfl⟩
        exact ⟨path, hfile, v, hv, hw⟩

/-- A text with a table behind it decodes as the table does. A fault of the table is a
fault of the file. -/
theorem ofText_of_parse? {text : String} (h : Toml.parse? text = some members) :
    ofText text = (members.foldlM setGroup {}).mapError ConfigFault.mismatch := by
  simp only [ofText, h]
  cases members.foldlM setGroup {} with
  | ok c => rfl
  | error m => rfl

end Config

end CatalogBrowser
