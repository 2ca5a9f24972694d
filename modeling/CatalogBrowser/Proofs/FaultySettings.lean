import CatalogBrowser.Proofs.FittingSettings

/-!
# Which value a configuration file is faulted for

Several values of a file may be of the wrong shape, and it is faulted for one of them:
for the first, since nothing is looked at behind a fault. The first is the first in the
order of the file, and in a group the first in the order of the group, with one
exception. In the group of the tree, what is said about datasets is looked at before
what is hidden, wherever it stands.

Where the fault lies is said on the shapes alone (`Config.Fault`), beside what it is for
a member to fit (`Config.Fits`). As before, the settings taken up already have no
influence, so that a fold stops at the first member that is at fault by itself
(`foldlM_eq_error_iff`).
-/

namespace CatalogBrowser

/-! ## The first fault -/

section

variable {α β ε : Type} {fits : β → Prop} {fault : β → ε → Prop}

/-- **The first of some members that does not fit**, and what is at fault with it. What
stands behind it does not matter. -/
inductive FirstFault (fits : β → Prop) (fault : β → ε → Prop) : List β → ε → Prop where
  | here {m : β} {rest : List β} {e : ε} (hm : ¬ fits m) (he : fault m e) :
      FirstFault fits fault (m :: rest) e
  | later {m : β} {rest : List β} {e : ε} (hm : fits m) (h : FirstFault fits fault rest e) :
      FirstFault fits fault (m :: rest) e

/-- Something that is at fault does not fit, because it would have been taken up
otherwise. -/
theorem eq_error_iff_of_eq_ok_iff {x : Except ε α} {P Q : Prop} {e : ε}
    (hok : (∃ a, x = .ok a) ↔ P) (herror : x = .error e ↔ Q) : x = .error e ↔ ¬ P ∧ Q := by
  rw [herror, ← hok, iff_and_self, ← herror]
  rintro rfl ⟨a, ha⟩
  cases ha

/-- Putting a decoded value in its place adds no fault of its own. -/
theorem map_eq_error_iff {x : Except ε α} {f : α → β} {e : ε} :
    f <$> x = Except.error e ↔ x = .error e := by
  cases x <;> simp

/-- **A fold stops at the first member that does not fit**, whatever state it starts from,
and with the fault of that member. -/
theorem foldlM_eq_error_iff {step : α → β → Except ε α}
    (hstep : ∀ s m, (∃ s', step s m = .ok s') ↔ fits m)
    (hfault : ∀ s m e, step s m = .error e ↔ ¬ fits m ∧ fault m e) {members : List β} {s : α}
    {e : ε} : members.foldlM step s = .error e ↔ FirstFault fits fault members e := by
  induction members generalizing s with
  | nil => exact ⟨nofun, nofun⟩
  | cons m members ih =>
    rw [List.foldlM_cons]
    cases hm : step s m with
    | error e' =>
      obtain ⟨hmisfit, hfaulty⟩ := (hfault s m e').1 hm
      constructor
      · rintro ⟨⟩
        exact .here hmisfit hfaulty
      · rintro (⟨-, he⟩ | ⟨hfits, -⟩)
        · rw [← hm, (hfault s m e).2 ⟨hmisfit, he⟩]
          rfl
        · exact absurd hfits hmisfit
    | ok t =>
      have hfits : fits m := (hstep s m).1 ⟨t, hm⟩
      constructor
      · intro h
        exact .later hfits (ih.1 h)
      · rintro (⟨hmisfit, -⟩ | ⟨-, h⟩)
        · exact absurd hfits hmisfit
        · exact ih.2 h

end

/-! ## Values -/

namespace Toml

variable {v : Toml} {e : Mismatch}

/-- There is one fault with a value that is no truth value: it names what was found
instead. -/
theorem asFlag_eq_error_iff :
    v.asFlag = .error e ↔ (¬ ∃ b, v = .boolean b) ∧ e = .wrongType v.found "a boolean" := by
  cases v <;> simp [asFlag, refuse, eq_comm]

/-- With a value that is no text, the fault also names what was expected, and that is not
always called a text. -/
theorem asText_eq_error_iff {expected : String} :
    v.asText expected = .error e ↔
      (¬ ∃ text, v = .string text) ∧ e = .wrongType v.found expected := by
  cases v <;> simp [asText, refuse, eq_comm]

/-- **What is at fault with a value that is no natural number**: it is negative, or it is no
whole number at all. -/
def NaturalFault : Toml → Mismatch → Prop
  | .integer n, e => e = .wrongValue (.integer n) "u64"
  | v, e => e = .wrongType v.found "u64"

/-- A number that is too small is another fault than a value that is no number. -/
theorem asNatural_eq_error_iff :
    v.asNatural = .error e ↔ (¬ ∃ n : Nat, v = .integer n) ∧ v.NaturalFault e := by
  cases v with
  | integer n =>
    have hnatural : (∃ k : Nat, n = k) ↔ ¬ n < 0 :=
      ⟨fun ⟨k, hk⟩ => by omega, fun h => Int.eq_ofNat_of_zero_le (Int.not_lt.1 h)⟩
    simp only [asNatural, NaturalFault, integer.injEq, hnatural]
    by_cases hneg : n < 0 <;> simp [hneg, eq_comm]
  | _ => simp [asNatural, refuse, NaturalFault, eq_comm]

/-- **What is at fault with a group of settings**: the first setting that does not fit, or
that it is no group. -/
def GroupFault (expected : String) (keys : List String) (fits : String × Toml → Prop)
    (fault : String × Toml → Mismatch → Prop) : Toml → Mismatch → Prop
  | .table members, e => FirstFault fits fault members e
  | .array items, e => FirstFault fits fault (keys.zip items) e
  | .moment, _ => False
  | v, e => e = .wrongType v.found expected

/-- **A group is faulted for the first setting that does not fit**, or for not being a
group. In an array the settings are looked at in the order of their keys. -/
theorem asGroup_eq_error_iff {σ : Type} {expected : String} {keys : List String}
    {set : String → Toml → σ → Except Mismatch σ} {fits : String × Toml → Prop}
    {fault : String × Toml → Mismatch → Prop} {s : σ}
    (hset : ∀ s m, (∃ s', set m.1 m.2 s = .ok s') ↔ fits m)
    (hfault : ∀ s m e, set m.1 m.2 s = .error e ↔ ¬ fits m ∧ fault m e) :
    v.asGroup expected keys set s = .error e ↔ v.GroupFault expected keys fits fault e := by
  cases v with
  | table members => exact foldlM_eq_error_iff hset hfault
  | array items => exact foldlM_eq_error_iff hset hfault
  | moment => exact ⟨nofun, False.elim⟩
  | string | integer | real | boolean =>
    simp [asGroup, refuse, GroupFault, eq_comm]

end Toml

/-! ## Groups -/

/-- What is at fault with a path of the catalog: it is no text. -/
def Config.PathFault (m : String × Toml) (e : Mismatch) : Prop :=
  e = .wrongType m.2.found "path string"

/-- What is at fault with a setting of the tree: it is no truth value. -/
def TreeSettings.FlagFault (m : String × Toml) (e : Mismatch) : Prop :=
  e = .wrongType m.2.found "a boolean"

/-- **What is at fault with the settings of the tree.** What is hidden is only looked at if
there is nothing to say about the datasets. -/
def TreeSettings.Fault : Toml → Mismatch → Prop
  | .table members, e =>
    FirstFault LeavesFit FlagFault members e ∨
      (∀ m ∈ members, LeavesFit m) ∧ FirstFault HiddenFit FlagFault members e
  | .moment, _ => False
  | v, e => e = .wrongType v.found "struct TreeConfig"

/-- **What is at fault with a setting of the screen.** -/
def ScreenSettings.Fault (m : String × Toml) (e : Mismatch) : Prop :=
  (m.1 = "show_wiki" ∧ e = .wrongType m.2.found "a boolean") ∨
  (m.1 = "locale" ∧ e = .wrongType m.2.found "a string") ∨
  (m.1 = "tick_rate_ms" ∧ m.2.NaturalFault e)

/-- **What is at fault with a setting of the log**: it is no text, which is called a path
where a file is meant. -/
def LogSettings.Fault (m : String × Toml) (e : Mismatch) : Prop :=
  (m.1 = "level" ∧ e = .wrongType m.2.found "a string") ∨
  (m.1 = "file" ∧ e = .wrongType m.2.found "path string")

/-- **What is at fault with a member of a configuration file**, which is a group then. -/
def Config.Fault (m : String × Toml) (e : Mismatch) : Prop :=
  (m.1 = "catalog" ∧ m.2.GroupFault "struct CatalogConfig" ["path"] PathFits PathFault e) ∨
  (m.1 = "tree" ∧ TreeSettings.Fault m.2 e) ∨
  (m.1 = "ui" ∧ m.2.GroupFault "struct UiConfig" ["show_wiki", "locale", "tick_rate_ms"]
    ScreenSettings.Fits ScreenSettings.Fault e) ∨
  (m.1 = "logging" ∧ m.2.GroupFault "struct LoggingConfig" ["level", "file"]
    LogSettings.Fits LogSettings.Fault e)

/-- At a key that is not known nothing is at fault, so `¬ Fits` cannot be left out on the
right. -/
theorem Config.setCatalog_eq_error_iff (path : String) (m : String × Toml) (e : Mismatch) :
    Config.setCatalog m.1 m.2 path = .error e ↔ ¬ Config.PathFits m ∧ Config.PathFault m e := by
  unfold Config.setCatalog Config.PathFits Config.PathFault
  split <;> simp_all [Toml.asText_eq_error_iff]

/-- A setting of the screen is at fault for its own shape. Which one it is, is told by its
key. -/
theorem ScreenSettings.set_eq_error_iff (s : ScreenSettings) (m : String × Toml) (e : Mismatch) :
    ScreenSettings.set m.1 m.2 s = .error e ↔
      ¬ ScreenSettings.Fits m ∧ ScreenSettings.Fault m e := by
  unfold ScreenSettings.set ScreenSettings.Fits ScreenSettings.Fault
  split <;> simp_all [map_eq_error_iff, Toml.asFlag_eq_error_iff, Toml.asText_eq_error_iff,
    Toml.asNatural_eq_error_iff]

/-- The two settings of the log are texts, but the fault calls one of them a path. -/
theorem LogSettings.set_eq_error_iff (s : LogSettings) (m : String × Toml) (e : Mismatch) :
    LogSettings.set m.1 m.2 s = .error e ↔ ¬ LogSettings.Fits m ∧ LogSettings.Fault m e := by
  unfold LogSettings.set LogSettings.Fits LogSettings.Fault
  split <;> simp_all [map_eq_error_iff, Toml.asText_eq_error_iff]

namespace TreeSettings

/-- What the first run over the settings of the tree is at fault with. -/
theorem setLeaves_eq_error_iff (s : TreeSettings) (m : String × Toml) (e : Mismatch) :
    s.setLeaves m = .error e ↔ ¬ LeavesFit m ∧ FlagFault m e := by
  unfold setLeaves LeavesFit FlagFault
  split <;> simp_all [map_eq_error_iff, Toml.asFlag_eq_error_iff]

/-- What the second run is at fault with. It is called the same. -/
theorem setHidden_eq_error_iff (s : TreeSettings) (m : String × Toml) (e : Mismatch) :
    s.setHidden m = .error e ↔ ¬ HiddenFit m ∧ FlagFault m e := by
  unfold setHidden HiddenFit FlagFault
  split <;> simp_all [map_eq_error_iff, Toml.asFlag_eq_error_iff]

/-- **The settings of the tree are looked at twice**, and what is hidden only if the first
look found no fault. -/
theorem ofToml_eq_error_iff {v : Toml} {e : Mismatch} :
    ofToml v = .error e ↔ TreeSettings.Fault v e := by
  cases v with
  | table members =>
    have hleaves {e' : Mismatch} :
        members.foldlM setLeaves {} = .error e' ↔ FirstFault LeavesFit FlagFault members e' :=
      foldlM_eq_error_iff exists_setLeaves_eq_ok_iff setLeaves_eq_error_iff
    have hhidden {s : TreeSettings} :
        members.foldlM setHidden s = .error e ↔ FirstFault HiddenFit FlagFault members e :=
      foldlM_eq_error_iff exists_setHidden_eq_ok_iff setHidden_eq_error_iff
    have hfit : (∃ s, members.foldlM setLeaves {} = .ok s) ↔ ∀ m ∈ members, LeavesFit m :=
      exists_foldlM_eq_ok_iff exists_setLeaves_eq_ok_iff
    show members.foldlM setLeaves {} >>= (members.foldlM setHidden ·) = _ ↔
      FirstFault LeavesFit FlagFault members e ∨
        (∀ m ∈ members, LeavesFit m) ∧ FirstFault HiddenFit FlagFault members e
    rw [← hleaves, ← hfit]
    cases hfold : members.foldlM setLeaves {} with
    | error e' => simp [bind, Except.bind]
    | ok s => simpa [bind, Except.bind] using hhidden
  | moment => exact ⟨nofun, False.elim⟩
  | string | integer | real | boolean | array =>
    simp [ofToml, Toml.refuse, TreeSettings.Fault, eq_comm]

end TreeSettings

namespace Config

/-- **A member is at fault if its group is**, whatever was taken up before. Which group it
is, is told by the key. -/
theorem setGroup_eq_error_iff (c : Config) (m : String × Toml) (e : Mismatch) :
    c.setGroup m = .error e ↔ ¬ Config.Fits m ∧ Config.Fault m e := by
  refine eq_error_iff_of_eq_ok_iff (exists_setGroup_eq_ok_iff c m) ?_
  unfold setGroup Config.Fault
  split <;> simp_all [map_eq_error_iff, TreeSettings.ofToml_eq_error_iff,
    Toml.asGroup_eq_error_iff ScreenSettings.exists_set_eq_ok_iff ScreenSettings.set_eq_error_iff,
    Toml.asGroup_eq_error_iff LogSettings.exists_set_eq_ok_iff LogSettings.set_eq_error_iff,
    Toml.asGroup_eq_error_iff exists_setCatalog_eq_ok_iff setCatalog_eq_error_iff]

/-- **A file is faulted for the first member that does not fit**, and for what is at fault
with that one. -/
theorem ofText_eq_mismatch_iff {text : String} {members : List (String × Toml)}
    (hparse : Toml.parse? text = some members) {e : Mismatch} :
    ofText text = .error (.mismatch e) ↔ FirstFault Config.Fits Config.Fault members e := by
  rw [ofText_of_parse? hparse,
    ← foldlM_eq_error_iff exists_setGroup_eq_ok_iff setGroup_eq_error_iff (s := ({} : Config))]
  cases members.foldlM setGroup {} <;> simp [Except.mapError]

/-- What is hidden stands first, and yet the file is faulted for what it says about the
datasets. -/
example : ofText "[tree]\nhide_homes = 1\nstop_at_datasets = \"no\"\n"
    = .error (.mismatch (.wrongType (.text "no") "a boolean")) := by
  decide +kernel

end Config

end CatalogBrowser
