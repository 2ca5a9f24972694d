import CatalogBrowser.Toml.Document
import Mathlib.Data.List.Nodup

/-!
# A TOML file gives each key once

A file can come back to a table many times, by headers, by dots in keys and by
the items of lists of tables, and an inline table is built up the same way.
Each time it may only add a key that is not there yet, or go on in the table
that is there. So no table of the file has a key twice, however deep it lies
(`Toml.KeysOnce`), and the value of a key is one value.

The property is carried through the construction first. What changes a table on
some path keeps it if it keeps it at the end of the path
(`Toml.Members.KeysOnce.changeAt`). After that it is a matter of what readers
yield (`Toml.Reader.Yields`), up to the file as a whole
(`Toml.keysOnce_of_parse?`).
-/

namespace CatalogBrowser

namespace Toml

/-- **No table in a value has a key twice.** -/
inductive KeysOnce : Toml → Prop where
  | string (s : String) : KeysOnce (.string s)
  | integer (n : Int) : KeysOnce (.integer n)
  | real (x : Float) : KeysOnce (.real x)
  | boolean (b : Bool) : KeysOnce (.boolean b)
  | moment : KeysOnce .moment
  | array {items : List Toml} (h : ∀ v ∈ items, KeysOnce v) : KeysOnce (.array items)
  | table {members : List (String × Toml)} (hkeys : (members.map (·.1)).Nodup)
      (h : ∀ m ∈ members, KeysOnce m.2) : KeysOnce (.table members)

namespace KeysOnce

variable {members : List (String × Toml)}

/-- A table is known to have different keys from its own constructor, so this is what is
read off it, and not off the values in it. -/
theorem nodup (h : (Toml.table members).KeysOnce) : (members.map (·.1)).Nodup := by
  cases h with
  | table hkeys _ => exact hkeys

/-- A value in a table is as good as the table. With `nodup` this is all that later results
need to know of a value. -/
theorem of_mem (h : (Toml.table members).KeysOnce) {m : String × Toml} (hm : m ∈ members) :
    m.2.KeysOnce := by
  cases h with
  | table _ h => exact h m hm

/-- **The value of a key is one value.** This is what the rest of the theory takes from
here: a setting is read off its key, wherever in the file that is. -/
theorem value_unique (h : (Toml.table members).KeysOnce) {key : String} {v w : Toml}
    (hv : (key, v) ∈ members) (hw : (key, w) ∈ members) : v = w :=
  congrArg Prod.snd (List.inj_on_of_nodup_map h.nodup hv hw rfl)

end KeysOnce

/-- The same of what a key stands for while tables are built. -/
inductive Entry.KeysOnce : Entry → Prop where
  | value {v : Toml} (h : v.KeysOnce) : Entry.KeysOnce (.value v)
  | table {isImplicit isDotted : Bool} {members : Members} (hkeys : (members.map (·.1)).Nodup)
      (h : ∀ m ∈ members, Entry.KeysOnce m.2) : Entry.KeysOnce (.table isImplicit isDotted members)
  | tables {items : List Members} (hkeys : ∀ members ∈ items, (members.map (·.1)).Nodup)
      (h : ∀ members ∈ items, ∀ m ∈ members, Entry.KeysOnce m.2) : Entry.KeysOnce (.tables items)

namespace Members

/-- **No table has a key twice**, neither this one nor one below it. -/
structure KeysOnce (members : Members) : Prop where
  /-- The keys of the table are different. -/
  nodup : (members.map (·.1)).Nodup
  /-- So are those of the tables below. -/
  entries : ∀ m ∈ members, m.2.KeysOnce

variable {members members' : Members} {key : String} {entry : Entry}

/-- The empty table is where every file and every inline table starts from. -/
theorem keysOnce_nil : KeysOnce [] := ⟨List.nodup_nil, fun _ hm => absurd hm List.not_mem_nil⟩

/-- Members that have each key once make a table that has. How the table came about, by a
header or by dots, does not matter for its keys. -/
theorem KeysOnce.table (h : members.KeysOnce) (isImplicit isDotted : Bool) :
    (Entry.table isImplicit isDotted members).KeysOnce := .table h.nodup h.entries

/-- And the other way round, a table that a key stands for is opened again by its members.
A file comes back to a table this way. -/
theorem keysOnce_of_table {isImplicit isDotted : Bool}
    (h : (Entry.table isImplicit isDotted members).KeysOnce) : members.KeysOnce := by
  cases h with
  | table hkeys h => exact ⟨hkeys, h⟩

/-- The items of a list of tables are tables of their own. They may share keys with each
other, but none has one twice. -/
theorem keysOnce_of_tables {items : List Members} (h : (Entry.tables items).KeysOnce) :
    ∀ members ∈ items, members.KeysOnce := by
  cases h with
  | tables hkeys h => exact fun members hm => ⟨hkeys members hm, h members hm⟩

/-- A list of tables is put together again from its items. -/
theorem keysOnce_tables {items : List Members} (h : ∀ members ∈ items, members.KeysOnce) :
    (Entry.tables items).KeysOnce :=
  .tables (fun members hm => (h members hm).nodup) fun members hm => (h members hm).entries

/-- The last of some tables, or an empty one, has no key twice if none of them has. A
header of an item goes on in the last item of the list. -/
theorem keysOnce_getLastD {items : List Members} (h : (Entry.tables items).KeysOnce) :
    (items.getLastD []).KeysOnce := by
  rw [List.getLastD_eq_getLast?]
  cases hlast : items.getLast? with
  | none => exact keysOnce_nil
  | some members => exact keysOnce_of_tables h members (List.mem_of_getLast? hlast)

namespace KeysOnce

/-- What a key stands for is found in the table, so nothing in it has a key twice either.
Changes below a key start from here. -/
theorem of_lookup (h : members.KeysOnce) (hkey : members.lookup key = some entry) :
    entry.KeysOnce := by
  obtain ⟨front, back, rfl, -⟩ := List.lookup_eq_some_iff.1 hkey
  exact h.entries (key, entry) (by simp)

/-- A key that is not there may be added. It is the only way in which a table gets a key at
all, so all other lemmas on changes come down to this one. -/
theorem concat (h : members.KeysOnce) (hkey : members.lookup key = none)
    (hentry : entry.KeysOnce) : KeysOnce (members ++ [(key, entry)]) where
  nodup := by
    rw [List.map_append, List.nodup_append]
    refine ⟨h.nodup, List.nodup_singleton key, fun k hk k' hk' heq => ?_⟩
    obtain ⟨m, hm, rfl⟩ := List.mem_map.1 hk
    have hne := List.lookup_eq_none_iff.1 hkey m hm
    rw [heq, List.mem_singleton.1 hk'] at hne
    simp at hne
  entries m hm := by
    rcases List.mem_append.1 hm with hm | hm
    · exact h.entries m hm
    · rw [List.mem_singleton.1 hm]
      exact hentry

/-- What a key stands for may be exchanged, since the keys stay the same ones in the same
places. -/
theorem replace (h : members.KeysOnce) (hentry : entry.KeysOnce) :
    (members.replace key entry).KeysOnce where
  nodup := by
    have hkeys : (members.replace key entry).map (·.1) = members.map (·.1) := by
      rw [Members.replace, List.map_map]
      refine List.map_congr_left fun m _ => ?_
      show (if m.1 = key then (m.1, entry) else (m.1, m.2)).1 = m.1
      split <;> rfl
    rw [hkeys]
    exact h.nodup
  entries m hm := by
    obtain ⟨m', hm', rfl⟩ := List.mem_map.1 hm
    show (if m'.1 = key then (m'.1, entry) else (m'.1, m'.2)).2.KeysOnce
    split
    · exact hentry
    · exact h.entries m' hm'

/-- Leaving out members leaves no key twice. A header takes a table out of its parent
before it is filled again. -/
theorem filter (h : members.KeysOnce) (p : String × Entry → Bool) :
    KeysOnce (members.filter p) where
  nodup := (List.filter_sublist.map _).nodup h.nodup
  entries m hm := h.entries m (List.mem_of_mem_filter hm)

/-- A key is only added where it was not found, which is the condition that `concat` asks
for. -/
theorem addNew (h : members.KeysOnce) (hentry : entry.KeysOnce)
    (hadd : members.addNew key entry = some members') : members'.KeysOnce := by
  unfold Members.addNew at hadd
  split at hadd
  · cases hadd
  · next hkey =>
    rw [← Option.some.inj hadd]
    exact h.concat (Option.not_isSome_iff_eq_none.1 hkey) hentry

/-- **A change at the end of a path gives no key twice** if it gives none there. On the way
tables are opened, or made, or the last of a list of tables is taken, and each of them goes
back under the key it was found at. -/
theorem changeAt {inKey : Bool} {change : Bool → Members → Option Members}
    (hchange : ∀ isDotted members members', KeysOnce members →
      change isDotted members = some members' → KeysOnce members')
    {isDotted : Bool} {path : List String} (h : members.KeysOnce)
    (hat : members.changeAt inKey change isDotted path = some members') : members'.KeysOnce := by
  induction path generalizing members members' isDotted with
  | nil => exact hchange isDotted members members' h hat
  | cons key path ih =>
    unfold Members.changeAt at hat
    split at hat
    · next hkey =>
      -- A table on the way is added.
      obtain ⟨inner, hinner, hsome⟩ := Option.bind_eq_some_iff.1 hat
      rw [← Option.some.inj hsome]
      exact h.concat hkey ((ih keysOnce_nil hinner).table true inKey)
    · cases hat
    · next isImplicit dotted members hkey =>
      split at hat
      · cases hat
      · obtain ⟨inner, hinner, hsome⟩ := Option.bind_eq_some_iff.1 hat
        rw [← Option.some.inj hsome]
        have hmembers := keysOnce_of_table (h.of_lookup hkey)
        exact h.replace ((ih hmembers hinner).table isImplicit dotted)
    · next items hkey =>
      -- Of a list of tables the last one changes.
      obtain ⟨inner, hinner, hsome⟩ := Option.bind_eq_some_iff.1 hat
      rw [← Option.some.inj hsome]
      have hitems := h.of_lookup hkey
      refine h.replace (keysOnce_tables fun members hm => ?_)
      rcases List.mem_append.1 hm with hm | hm
      · exact keysOnce_of_tables hitems members (List.dropLast_subset items hm)
      · rw [List.mem_singleton.1 hm]
        exact ih (keysOnce_getLastD hitems) hinner

/-- A key with dots in it is added at the end of its path, and tables on the way are made
as they are needed. -/
theorem insertDotted {path : List String} {v : Toml} (h : members.KeysOnce) (hv : v.KeysOnce)
    (hinsert : members.insertDotted path key v = some members') : members'.KeysOnce := by
  refine h.changeAt (fun isDotted inner inner' hinner hchange => ?_) hinsert
  split at hchange
  · cases hchange
  · exact hinner.addNew (.value hv) hchange

end KeysOnce

end Members

/-! ## Headers -/

namespace Sheet

/-- **No table of a file under construction has a key twice.** -/
structure KeysOnce (s : Sheet) : Prop where
  /-- No table has that is behind. -/
  root : s.root.KeysOnce
  /-- Nor has the one that is being filled. -/
  current : s.current.KeysOnce

variable {s s' : Sheet} {path : List String}

theorem keysOnce_empty : Sheet.empty.KeysOnce := ⟨Members.keysOnce_nil, Members.keysOnce_nil⟩

namespace KeysOnce

/-- A line that gives a key a value changes the table that is being filled, and no other. -/
theorem addValue (h : s.KeysOnce) {key : String} {v : Toml} (hv : v.KeysOnce)
    (hadd : s.addValue path key v = some s') : s'.KeysOnce := by
  obtain ⟨current, hcurrent, hsome⟩ := Option.bind_eq_some_iff.1 hadd
  rw [← Option.some.inj hsome]
  exact ⟨h.root, h.current.insertDotted hv hcurrent⟩

/-- **Putting a table back into the file** gives no key twice. It goes below its parent
either as a new key or as one more item of a list of tables. -/
theorem settle (h : s.KeysOnce) {root : Members} (hroot : s.settle = some root) :
    root.KeysOnce := by
  unfold Sheet.settle at hroot
  split at hroot
  · rw [← Option.some.inj hroot]
    exact h.current
  · refine h.root.changeAt (fun isDotted parent parent' hparent hchange => ?_) hroot
    split at hchange
    · split at hchange
      · next items hkey =>
        rw [← Option.some.inj hchange]
        refine hparent.replace (Members.keysOnce_tables fun members hm => ?_)
        rcases List.mem_append.1 hm with hm | hm
        · exact Members.keysOnce_of_tables (hparent.of_lookup hkey) members hm
        · rw [List.mem_singleton.1 hm]
          exact h.current
      · cases hchange
    · exact hparent.addNew (h.current.table false false) hchange

/-- What a header takes over is a table of the file, so it has no key twice. The recursion
follows the path, and goes into the last item where a list of tables lies on it. -/
theorem taken {members taken : Members} (h : members.KeysOnce)
    (htaken : beginTable.taken members path = some taken) : taken.KeysOnce := by
  fun_induction beginTable.taken members path with
  | case1 => cases htaken
  | case2 => exact Option.some.inj htaken ▸ Members.keysOnce_nil
  | case3 members key inner hkey =>
    exact Option.some.inj htaken ▸ Members.keysOnce_of_table (h.of_lookup hkey)
  | case4 => cases htaken
  | case5 members key path _ _ _ inner hkey ih =>
    exact ih (Members.keysOnce_of_table (h.of_lookup hkey)) htaken
  | case6 members key path _ items hkey ih =>
    exact ih (Members.keysOnce_getLastD (h.of_lookup hkey)) htaken
  | case7 => cases htaken

/-- **A header opens a table**, and the one before it goes back into the file. If the table
was there already, it is taken out of its parent to be filled further, so it will not be
there twice when it is put back. -/
theorem beginTable (h : s.KeysOnce) (hbegin : s.beginTable path = some s') : s'.KeysOnce := by
  obtain ⟨key, -, hbegin⟩ := Option.bind_eq_some_iff.1 hbegin
  obtain ⟨root, hsettle, hbegin⟩ := Option.bind_eq_some_iff.1 hbegin
  obtain ⟨root', hparent, hbegin⟩ := Option.bind_eq_some_iff.1 hbegin
  obtain ⟨mine, htaken, hbegin⟩ := Option.bind_eq_some_iff.1 hbegin
  obtain ⟨root'', hwithout, hsome⟩ := Option.bind_eq_some_iff.1 hbegin
  have hroot' : root'.KeysOnce := by
    refine (h.settle hsettle).changeAt (fun _ parent parent' hparent hchange => ?_) hparent
    exact Option.some.inj hchange ▸ hparent
  rw [← Option.some.inj hsome]
  refine ⟨hroot'.changeAt (fun _ parent parent' hparent hchange => ?_) hwithout,
    taken hroot' htaken⟩
  exact Option.some.inj hchange ▸ hparent.filter _

/-- **A header in double brackets opens a new item**, which starts empty. Its list is made
if it is not there yet. -/
theorem beginItem (h : s.KeysOnce) (hbegin : s.beginItem path = some s') : s'.KeysOnce := by
  obtain ⟨key, -, hbegin⟩ := Option.bind_eq_some_iff.1 hbegin
  obtain ⟨root, hsettle, hbegin⟩ := Option.bind_eq_some_iff.1 hbegin
  obtain ⟨root', hitem, hsome⟩ := Option.bind_eq_some_iff.1 hbegin
  rw [← Option.some.inj hsome]
  refine ⟨(h.settle hsettle).changeAt (fun _ parent parent' hparent hchange => ?_) hitem,
    Members.keysOnce_nil⟩
  split at hchange
  · next hkey =>
    have hnone : Entry.KeysOnce (.tables []) :=
      Members.keysOnce_tables fun _ hm => absurd hm List.not_mem_nil
    exact Option.some.inj hchange ▸ hparent.concat hkey hnone
  · exact Option.some.inj hchange ▸ hparent
  · cases hchange

end KeysOnce

end Sheet

/-! ## Values -/

namespace Members

/-- Members become values one by one, under the keys they had. The functions are mutually
recursive, and this takes one of them out of the circle. -/
theorem toTomlMembers_eq_map (members : Members) :
    toTomlMembers members = members.map fun m => (m.1, m.2.toToml) := by
  induction members with
  | nil => rfl
  | cons m members ih =>
    rw [List.map_cons, ← ih]
    rfl

/-- The same of the items of a list of tables. -/
theorem toTomlTables_eq_map (items : List Members) :
    toTomlTables items = items.map fun members => .table (toTomlMembers members) := by
  induction items with
  | nil => rfl
  | cons members items ih =>
    rw [List.map_cons, ← ih]
    rfl

/-- No key is changed, or lost, or added on the way from entries to values. -/
theorem map_key_toTomlMembers (members : Members) :
    (toTomlMembers members).map (·.1) = members.map (·.1) := by
  rw [toTomlMembers_eq_map, List.map_map]
  rfl

end Members

/-- **The value of an entry has no key twice** if the entry has none. What an entry was
built for, a table, a list of tables or a value, is forgotten, and only its keys and values
are kept. -/
theorem Entry.KeysOnce.toToml {entry : Entry} (h : entry.KeysOnce) : entry.toToml.KeysOnce := by
  induction h with
  | value h => exact h
  | @table _ _ members hkeys _ ih =>
    show Toml.KeysOnce (.table (Members.toTomlMembers members))
    refine .table ?_ fun m hm => ?_
    · rwa [Members.map_key_toTomlMembers]
    · rw [Members.toTomlMembers_eq_map] at hm
      obtain ⟨m', hm', rfl⟩ := List.mem_map.1 hm
      exact ih m' hm'
  | @tables items hkeys _ ih =>
    show Toml.KeysOnce (.array (Members.toTomlTables items))
    refine .array fun v hv => ?_
    rw [Members.toTomlTables_eq_map] at hv
    obtain ⟨members, hmembers, rfl⟩ := List.mem_map.1 hv
    refine .table ?_ fun m hm => ?_
    · rw [Members.map_key_toTomlMembers]
      exact hkeys members hmembers
    · rw [Members.toTomlMembers_eq_map] at hm
      obtain ⟨m', hm', rfl⟩ := List.mem_map.1 hm
      exact ih members hmembers m' hm'

/-- A table of members becomes a table of values, whichever way it came about. -/
theorem Members.KeysOnce.toToml {members : Members} (h : members.KeysOnce) :
    Toml.KeysOnce (.table (Members.toTomlMembers members)) :=
  (h.table false false).toToml

/-! ## Readers -/

namespace Reader

variable {α β : Type} {P : α → Prop} {Q : β → Prop}

/-- **Whatever a reader reads has a property.** -/
def Yields (read : Reader α) (P : α → Prop) : Prop :=
  ∀ cs a rest, read cs = some (a, rest) → P a

/-- **Readers are put together.** What the first one yields is what the second one may rely
on. -/
theorem Yields.bind {read : Reader α} {next : α → Reader β} (h : Yields read P)
    (hnext : ∀ a, P a → Yields (next a) Q) : Yields (read >>= next) Q := by
  intro cs b rest heq
  obtain ⟨⟨a, cs'⟩, hread, hrest⟩ := Option.bind_eq_some_iff.1 heq
  exact hnext a (h cs a cs' hread) cs' b rest hrest

/-- What was read before may not matter. Blanks and brackets are read like this, and most
steps of a reader are of this kind. -/
theorem yields_bind {read : Reader α} {next : α → Reader β} (hnext : ∀ a, Yields (next a) Q) :
    Yields (read >>= next) Q :=
  Yields.bind (fun _ _ _ _ => trivial : Yields read fun _ => True) fun a _ => hnext a

/-- Reading nothing yields what was there before. -/
theorem yields_pure {a : α} (h : P a) : Yields (pure a) P := by
  intro cs b rest heq
  exact (Prod.mk.inj (Option.some.inj heq)).1 ▸ h

/-- A reader that fails yields nothing, so that whatever is asked of its result holds. -/
theorem yields_failure : Yields (failure : Reader α) P := fun _ _ _ heq => nomatch heq

/-- A step that may fail yields what it yields where it succeeds. The changes of tables
come into readers this way. -/
theorem yields_lift {x : Option α} (h : ∀ a, x = some a → P a) : Yields (liftM x : Reader α) P := by
  intro cs b rest heq
  obtain ⟨a, hx, hsome⟩ := Option.bind_eq_some_iff.1 heq
  exact (Prod.mk.inj (Option.some.inj hsome)).1 ▸ h a hx

/-- Of two readers either may have read what was read, so both have to yield it. -/
theorem Yields.orElse {read read' : Reader α} (h : Yields read P) (h' : Yields read' P) :
    Yields (read <|> read') P := by
  intro cs a rest heq
  change (read cs <|> read' cs) = some (a, rest) at heq
  cases hread : read cs with
  | none =>
    rw [hread] at heq
    exact h' cs a rest heq
  | some r =>
    rw [hread] at heq
    exact h cs a rest (hread.trans heq)

/-! ## What is read -/

/-- There is no table in a value without parts, and so no key. -/
theorem yields_scalar : Yields scalar KeysOnce := by
  unfold scalar
  refine Yields.orElse ?_ (Yields.orElse ?_ (Yields.orElse ?_ ?_))
  · exact yields_bind fun _ => yields_pure .moment
  · exact yields_bind fun x => yields_pure (.real x)
  · exact yields_bind fun x => yields_pure (.real x)
  · exact yields_bind fun n => yields_pure (.integer n)

/-- **The items of a list are read by one reader**, and what it yields holds of each of
them, however many there are. -/
theorem yields_items {item : Reader α} (hitem : Yields item P) (fuel : Nat) :
    Yields (items item fuel) fun as => ∀ a ∈ as, P a := by
  have hnone : ∀ a ∈ ([] : List α), P a := fun _ ha => absurd ha List.not_mem_nil
  induction fuel with
  | zero => exact yields_failure
  | succ fuel ih =>
    unfold items
    refine yields_bind fun _ => yields_bind fun next => ?_
    split
    · exact yields_bind fun _ => yields_pure hnone
    · refine Yields.bind hitem fun a ha => yields_bind fun _ => yields_bind fun next => ?_
      split
      · refine yields_bind fun _ => Yields.bind ih fun as has => yields_pure ?_
        exact List.forall_mem_cons.2 ⟨ha, has⟩
      · exact yields_bind fun _ => yields_pure (List.forall_mem_cons.2 ⟨ha, hnone⟩)

/-- **An inline table is built key by key**, and each key goes in as a key of a line does.
So no key comes twice, with dots or without. -/
theorem yields_inlineMembers {item : Reader Toml} (hitem : Yields item KeysOnce) (fuel : Nat)
    {members : Members} (h : members.KeysOnce) :
    Yields (inlineMembers item fuel members) Members.KeysOnce := by
  induction fuel generalizing members with
  | zero => exact yields_failure
  | succ fuel ih =>
    unfold inlineMembers
    refine yields_bind fun path => yields_bind fun _ => yields_bind fun _ => ?_
    refine Yields.bind hitem fun v hv => yields_bind fun _ => ?_
    refine Yields.bind (yields_lift fun _ => h.insertDotted hv) fun members hmembers => ?_
    refine yields_bind fun next => ?_
    split
    · exact yields_bind fun _ => ih hmembers
    · exact yields_bind fun _ => yields_pure hmembers

/-- An inline table starts empty, with nothing that its keys could clash with. -/
theorem yields_inlineTable {item : Reader Toml} (hitem : Yields item KeysOnce) :
    Yields (inlineTable item) Members.KeysOnce := by
  unfold inlineTable
  refine yields_bind fun _ => yields_bind fun next => ?_
  split
  · exact yields_bind fun _ => yields_pure Members.keysOnce_nil
  · exact yields_bind fun fuel => yields_inlineMembers hitem fuel Members.keysOnce_nil

/-- **A value has no key twice**, however deep it goes. Lists and inline tables are read by
the reader for values one level further down, so the induction is on the levels that are
left. -/
theorem yields_value (depth : Nat) : Yields (value depth) KeysOnce := by
  induction depth using Nat.strongRecOn with
  | ind depth ih =>
    unfold value
    refine yields_bind fun next => ?_
    split
    · exact yields_bind fun s => yields_pure (.string s)
    · exact yields_bind fun s => yields_pure (.string s)
    · exact yields_bind fun _ => yields_pure (.boolean true)
    · exact yields_bind fun _ => yields_pure (.boolean false)
    · split
      · exact yields_failure
      · next depth =>
        have hinner := ih depth (Nat.lt_succ_self depth)
        refine yields_bind fun _ => yields_bind fun fuel => ?_
        exact Yields.bind (yields_items hinner fuel) fun _ h => yields_pure (.array h)
    · split
      · exact yields_failure
      · next depth =>
        have hinner := ih depth (Nat.lt_succ_self depth)
        refine yields_bind fun _ => ?_
        exact Yields.bind (yields_inlineTable hinner) fun _ h => yields_pure h.toToml
    · exact yields_scalar

/-- A line that gives a key a value keeps the file in order, because the value is in order
by itself and goes in at a new key. -/
theorem yields_keyValue {s : Sheet} (h : s.KeysOnce) : Yields (keyValue s) Sheet.KeysOnce := by
  unfold keyValue
  refine yields_bind fun path => yields_bind fun _ => yields_bind fun _ => ?_
  refine Yields.bind (yields_value depthLimit) fun v hv => yields_bind fun _ => ?_
  exact yields_lift fun _ => h.addValue hv

/-- So does a line that opens a table, or an item of a list of tables. -/
theorem yields_header {s : Sheet} (h : s.KeysOnce) : Yields (header s) Sheet.KeysOnce := by
  unfold header
  refine yields_bind fun isItem => ?_
  split
  · refine yields_bind fun path => yields_bind fun _ => yields_bind fun _ => ?_
    exact yields_lift fun _ => h.beginItem
  · refine yields_bind fun _ => yields_bind fun path => yields_bind fun _ => yields_bind fun _ => ?_
    exact yields_lift fun _ => h.beginTable

/-- **The lines of a file give no key twice**, if those before gave none. Each kind of line
has been dealt with by now, so this is the induction on how many there are. -/
theorem yields_lines (fuel : Nat) {s : Sheet} (h : s.KeysOnce) :
    Yields (lines fuel s) Sheet.KeysOnce := by
  induction fuel generalizing s with
  | zero => exact yields_failure
  | succ fuel ih =>
    unfold lines
    refine yields_bind fun _ => yields_bind fun next => ?_
    split
    · exact yields_pure h
    · exact yields_bind fun _ => yields_bind fun _ => ih h
    · exact yields_bind fun _ => ih h
    · exact yields_bind fun _ => ih h
    · exact Yields.bind (yields_header h) fun _ => ih
    · exact Yields.bind (yields_keyValue h) fun _ => ih

/-- A file is its lines, with the table put back that was filled last. -/
theorem yields_file : Yields file Members.KeysOnce := by
  unfold file
  refine yields_bind fun _ => yields_bind fun fuel => ?_
  refine Yields.bind (yields_lines fuel Sheet.keysOnce_empty) fun s h => ?_
  exact yields_lift fun _ => h.settle

end Reader

/-- **A file gives each key once**, at the top and in each of its tables. So it makes no
difference in which order a table is looked through for a key. -/
theorem keysOnce_of_parse? {text : String} {members : List (String × Toml)}
    (h : parse? text = some members) : (Toml.table members).KeysOnce := by
  obtain ⟨⟨read, rest⟩, hfile, rfl⟩ := Option.map_eq_some_iff.1 h
  exact (Reader.yields_file text.toList read rest hfile).toToml

end Toml

end CatalogBrowser
