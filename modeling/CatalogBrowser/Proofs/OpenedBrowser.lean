import CatalogBrowser.Command.Run
import CatalogBrowser.Proofs.FullExpansion
import CatalogBrowser.Proofs.Independence
import CatalogBrowser.Proofs.RoutedSelections

/-!
# The browser that a command opens

What is proved of the browser is proved of its states after any keys, from a start
with any settings, any catalog and any network (`Browser.after`). A command line leads
to one of these starts. It says something about the tree, and it may hide the wiki and
pretend that the server cannot be reached. So whatever holds after any keys holds of a
browser that a command opened (`Command.value_pressAll_openBrowser`), and what the
command line says can be seen in every state of it, not only in the first one.

The other command that reads a catalog prints its tree. It takes the same arguments
about the tree, and the two agree on it: what is printed are the rows that the browser
shows at first, or, if all entries are opened, those it shows once they were opened by
hand (`Command.treeLines_openBrowser`). What the command line says about the wiki and
the server makes no difference to the tree (`Command.sameTree_openBrowser`).
-/

namespace CatalogBrowser

/-! ## Switches

Two fields of the browser are set from outside the tree. One of them never changes, and
the other has a key of its own. -/

/-- Whether a key says that the server can be reached, or cannot. -/
def Key.togglesNetwork (key : Key) : Bool := key.action? = some .toggleNetwork

namespace Browser

variable {b : Browser}

/-- **Selecting leaves both switches as they are**, also where children are loaded or
cannot be. -/
theorem switches_select {c : Catalog} (h : Settled c b) :
    b.select.value.showWiki = b.showWiki ∧ b.select.value.network = b.network := by
  cases hrow : b.highlighted? with
  | none =>
    rw [value_select_of_none hrow]
    exact ⟨rfl, rfl⟩
  | some row =>
    obtain ⟨b', hturn, hvalue⟩ := exists_turned h.loading_eq hrow
    rw [hvalue]
    cases hturn <;> exact ⟨rfl, rfl⟩

/-- A star is no switch. -/
theorem switches_toggleStar (b : Browser) :
    b.toggleStar.showWiki = b.showWiki ∧ b.toggleStar.network = b.network := by
  unfold toggleStar
  split <;> exact ⟨rfl, rfl⟩

/-- **What one key does to the switches.** -/
theorem switches_press {c : Catalog} (h : Settled c b) (key : Key) :
    (b.press key).value.showWiki = b.showWiki ∧
      (b.press key).value.network
        = if key.togglesNetwork then b.network.toggle else b.network := by
  unfold press Key.togglesNetwork
  cases key.action? with
  | none => exact ⟨rfl, rfl⟩
  | some action =>
    cases action with
    | select => exact switches_select h
    | toggleStar => exact switches_toggleStar b
    | quit | moveDown | moveUp | clear | toggleTab | nextPage | previousPage | toggleNetwork =>
      exact ⟨rfl, rfl⟩

variable {config : Config} {c : Catalog} {network : Network}

/-- **The wiki is offered from the start on, or never.** -/
theorem showWiki_after (keys : List Key) :
    (after config c network keys).showWiki = config.screen.showWiki := by
  -- That nothing waits is carried along, as `switches_press` asks for it.
  have h : Settled c (after config c network keys) ∧
      (after config c network keys).showWiki = config.screen.showWiki :=
    after_induction (P := fun b => Settled c b ∧ b.showWiki = config.screen.showWiki)
      ⟨⟨rfl, rfl⟩, rfl⟩
      (fun b key h => ⟨h.1.press key, (switches_press h.1 key).1.trans h.2⟩) keys
  exact h.2

/-- **The network is turned over as often as its key was pressed.** -/
theorem network_after_eq_offline_iff (keys : List Key) :
    (after config c network keys).network = .offline ↔
      Xor (network = .offline) (Odd (keys.countP Key.togglesNetwork)) := by
  induction keys using List.reverseRecOn with
  | nil => exact ⟨fun h => .inl ⟨h, Nat.not_odd_zero⟩, fun h => h.elim And.left fun h' =>
      absurd h'.1 Nat.not_odd_zero⟩
  | append_singleton keys key ih =>
    have hpress := (switches_press (settled_after config c network keys) key).2
    have htoggle (n : Network) : n.toggle = .offline ↔ ¬ n = .offline := by
      cases n <;> decide
    rw [after_append, value_pressAll_singleton, hpress, TreeState.odd_countP_concat]
    cases key.togglesNetwork with
    | false =>
      rw [if_neg Bool.false_ne_true, ih]
      simp only [xor_def, Bool.false_eq_true]
      tauto
    | true =>
      rw [if_pos rfl, htoggle, ih]
      simp only [xor_def]
      tauto

end Browser

/-! ## The browser of a command line -/

namespace Command

open Browser

variable (arguments : TreeArguments) (startsOffline hidesWiki : Bool) (c : Config)
  (catalog : Catalog)

/-- **A browser that a command opened is one of those all results are about.** -/
theorem value_pressAll_openBrowser (keys : List Key) :
    ((openBrowser arguments startsOffline hidesWiki c catalog).value.pressAll keys).value
      = after (browserSettings arguments hidesWiki c) catalog (.ofAvailable (!startsOffline))
          keys := rfl

/-- **The wiki is offered in each state or in none**: it has to be switched on by the
settings, and the command line must not hide it. -/
theorem wiki_mem_pages_openBrowser_iff (keys : List Key) :
    let b := ((openBrowser arguments startsOffline hidesWiki c catalog).value.pressAll keys).value
    Page.wiki ∈ b.pages ↔ c.screen.showWiki = true ∧ hidesWiki = false := by
  intro b
  have hshown : b.showWiki = (c.screen.showWiki && !hidesWiki) := showWiki_after keys
  have hoffered : Page.wiki ∈ b.pages ↔ b.showWiki = true := by
    unfold pages
    cases b.showWiki <;> cases b.selectsDataset <;> decide
  rw [hoffered, hshown, Bool.and_eq_true, Bool.not_eq_true']

/-- **The banner is there at first just if the command line asks for it**, and it comes
and goes with the key for the network. -/
theorem isSome_banner_openBrowser_iff (keys : List Key) :
    let b := ((openBrowser arguments startsOffline hidesWiki c catalog).value.pressAll keys).value
    b.banner?.isSome = true ↔
      Xor (startsOffline = true) (Odd (keys.countP Key.togglesNetwork)) := by
  intro b
  have hbanner : b.banner?.isSome = true ↔ b.network = .offline := by
    unfold banner?
    cases b.network <;> simp [Network.banner]
  have hstart : Network.ofAvailable (!startsOffline) = .offline ↔ startsOffline = true := by
    cases startsOffline <;> decide
  rw [hbanner, ← hstart]
  exact network_after_eq_offline_iff keys

/-- The banner that the command line asks for is put away by the key for the network. -/
example :
    ((openBrowser {} true false {} salesCatalog).value.pressAll [⟨.char 'o', false⟩]).value.banner?
      = none := rfl

/-- **What the command line says about the wiki and the server makes no difference to the
tree**, after any keys that are the same but for those that spare the tree. -/
theorem sameTree_openBrowser (startsOffline' hidesWiki' : Bool) {keys keys' : List Key}
    (hkeys : keys.filter (!·.sparesTree) = keys'.filter (!·.sparesTree)) :
    SameTree ((openBrowser arguments startsOffline hidesWiki c catalog).value.pressAll keys).value
      ((openBrowser arguments startsOffline' hidesWiki' c catalog).value.pressAll keys').value := by
  have htree : (browserSettings arguments hidesWiki c).tree
      = (browserSettings arguments hidesWiki' c).tree := rfl
  have hstart : SameTree (openBrowser arguments startsOffline hidesWiki c catalog).value
      (openBrowser arguments startsOffline' hidesWiki' c catalog).value :=
    sameTree_start htree catalog _ _
  have hrun := hstart.pressAll keys
  rw [hkeys] at hrun
  exact hrun.trans ((SameTree.refl _).pressAll keys').symm

/-! ## What is printed -/

/-- **The tree that is printed is the one that is shown.** The lines are those of the rows
of the browser, which any command line opens that says the same about the tree: as it
starts, if only the roots are listed, and after opening row after row by hand, if all
entries are opened. For the latter the entries have to be where their paths lead. -/
theorem treeLines_openBrowser (asJson : Bool) :
    let options := (arguments.apply c).viewOptions
    let b := (openBrowser arguments startsOffline hidesWiki c catalog).value
    Listing.treeLines catalog options false asJson
        = (b.rows.map Row.face).map (RowFace.line asJson) ∧
      (Forest.Derived [] catalog.roots → Forest.SiblingsDistinct catalog.roots →
        Listing.treeLines catalog options true asJson
          = ((b.pressAll (enterDown (Listing.rows catalog options true).length)).value.rows.map
              Row.face).map (RowFace.line asJson)) := by
  intro options b
  refine ⟨Listing.treeLines_eq catalog options false asJson, fun hd hs => ?_⟩
  have hopen : OpenUpTo catalog (browserSettings arguments hidesWiki c)
      (Listing.rows catalog options true).length
      (b.pressAll (enterDown (Listing.rows catalog options true).length)).value :=
    (openUpTo_enterDown hd hs (.ofAvailable (!startsOffline)) (Nat.le_refl _)).1
  rw [Listing.treeLines_eq]
  exact congrArg _ (hopen.faces_rows_eq (hd.distinct hs)).symm

section

variable {α β : Type}

/-- What is done next over a file tree is done with the tree that was left to it. -/
theorem run_bind (x : StateM FileTree α) (f : α → StateM FileTree β) (t : FileTree) :
    (x >>= f).run t = (f (x.run t).1).run (x.run t).2 := rfl

/-- What does nothing over a file tree leaves it as it is. -/
theorem run_pure (a : α) (t : FileTree) : (pure a : StateM FileTree α).run t = (a, t) := rfl

end

/-- **What needs the catalog prints nothing without it.** If something is printed, then a
catalog was opened, and it is what was to be done with this catalog that printed it. -/
theorem exists_catalog_of_printed {around : Surroundings} {proceed : Catalog → Traced Outcome}
    {t t' : FileTree} {text : String}
    (h : (withCatalog FileTree.disk around c proceed).run t = (.printed text, t')) :
    ∃ files catalog, (Catalog.openFile files c.catalogPath).value = .ok catalog ∧
      (proceed catalog).value = .printed text := by
  unfold withCatalog at h
  rw [run_bind] at h
  cases hlog : ((openLog FileTree.disk around c.log).run t).1 with
  | error fault =>
    rw [hlog] at h
    exact nomatch h
  | ok filter =>
    -- Neither looking at the files nor writing the log has an influence on the outcome.
    simp only [hlog, run_bind, run_pure, Traced.value_bind] at h
    obtain ⟨hprinted, -⟩ := Prod.mk.inj h
    split at hprinted
    · next catalog hopen => exact ⟨_, catalog, hopen, hprinted⟩
    · exact nomatch hprinted

/-- **What the one command prints is what the other one shows at first**, over the catalog
that was read, and whatever that command line says beyond the tree. -/
theorem printed_tree_eq_rows {around : Surroundings} {asJson : Bool} {t t' : FileTree}
    {text : String}
    (h : (runWith FileTree.disk around c (.tree arguments false asJson)).run t
      = (.printed text, t')) :
    ∃ files catalog,
      (Catalog.openFile files (arguments.apply c).catalogPath).value = .ok catalog ∧
        Outcome.printed text = .ofLines (((openBrowser arguments startsOffline hidesWiki c
          catalog).value.rows.map Row.face).map (RowFace.line asJson)) := by
  obtain ⟨files, catalog, hopen, hprinted⟩ := exists_catalog_of_printed (arguments.apply c) h
  have hlines := (treeLines_openBrowser arguments startsOffline hidesWiki c catalog asJson).1
  exact ⟨files, catalog, hopen, hprinted.symm.trans (congrArg Outcome.ofLines hlines)⟩

end Command

end CatalogBrowser
