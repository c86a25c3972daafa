import Ubd.Basics
import Mathlib.Data.Int.Basic
import Mathlib.Data.Option.Basic
import Mathlib.Data.List.Basic

/-!
# Config — the settings of `xmlconfig.c`

`xml_parsebase` goes through six elements of the configuration and copies their attributes to
`config`. The tree comes from Mini-XML: all that is used of it is which element
`mxmlFindElement` finds for a name, so that is what a `Tree` is. `g_ascii_strtoull` is a
parameter too.

Each block asks whether its element is there, only the last asks for the element of another
one: `parsebase_independent_iff`.
-/

namespace Ubd

/-- An element, by its attributes in order. -/
structure Element where
  attrs : List (String × String)

/-- The element that `mxmlFindElement(tree, tree, name, NULL, NULL, MXML_DESCEND)` finds. -/
abbrev Tree := String → Option Element

/-- The settings of `struct ubconfig` that the configuration can change. -/
structure UbConfig where
  interface : Option String
  base : Option String
  multicastbase : Option String
  device : Option String
  rate : Int
  nodetimeout : Int
  sysloglevel : Int
  demo : Int
  dirserver : Int

/-- `LOG_WARNING` -/
def logWarning : Int := 4

/-- `LOG_INFO` -/
def logInfo : Int := 6

/-- `xml_getAttribute` of an element that is there -/
def xmlGetAttribute (node : Element) (name : String) : Option String :=
  (node.attrs.find? fun a => name = a.1).map Prod.snd

/-- A `guint64` as a `gint`. -/
def toGint (n : Nat) : Int := Int.bmod n (2 ^ 32)

/-! ## The blocks -/

/-- A block of `xml_parsebase`: if `guard` is there, `element` is looked into. -/
def xmlBlock (guard element : Option Element) (set : Element → UbConfig → UbConfig)
    (config : UbConfig) : Except Fault UbConfig :=
  if guard.isSome then
    match element with
    -- `xml_getAttribute(NULL, ...)`
    | none => .error .nullPointer
    | some e => .ok (set e config)
  else .ok config

def setNetwork (e : Element) (config : UbConfig) : UbConfig :=
  { config with
    interface := xmlGetAttribute e "interface"
    base := xmlGetAttribute e "base"
    multicastbase := xmlGetAttribute e "multicastbase" }

def setSerial (strtoull : String → Nat) (e : Element) (config : UbConfig) : UbConfig :=
  { config with
    device := xmlGetAttribute e "device"
    rate := (xmlGetAttribute e "rate").elim config.rate fun rate => toGint (strtoull rate) }

def setBus (strtoull : String → Nat) (e : Element) (config : UbConfig) : UbConfig :=
  { config with
    nodetimeout := (xmlGetAttribute e "timeout").elim config.nodetimeout
      fun timeout => toGint (strtoull timeout) }

/-- The number a word stands for, and the old value for other words or none. -/
def choose (word : Option String) (first second : String × Int) (old : Int) : Int :=
  match word with
  | none => old
  | some w => if w = first.1 then first.2 else if w = second.1 then second.2 else old

def setSyslog (e : Element) (config : UbConfig) : UbConfig :=
  { config with
    sysloglevel := choose (xmlGetAttribute e "level") ("INFO", logInfo) ("WARNING", logWarning)
      config.sysloglevel }

def setSimulation (e : Element) (config : UbConfig) : UbConfig :=
  { config with demo := choose (xmlGetAttribute e "mode") ("off", 0) ("demo", 1) config.demo }

def setDirectory (e : Element) (config : UbConfig) : UbConfig :=
  { config with
    dirserver := choose (xmlGetAttribute e "server") ("disabled", 0) ("enabled", 1)
      config.dirserver }

/-- `xml_parsebase` -/
def xmlParsebase (strtoull : String → Nat) (tree : Tree) (config : UbConfig) :
    Except Fault UbConfig := do
  let config ← xmlBlock (tree "network") (tree "network") setNetwork config
  let config ← xmlBlock (tree "serial") (tree "serial") (setSerial strtoull) config
  let config ← xmlBlock (tree "bus") (tree "bus") (setBus strtoull) config
  let config ← xmlBlock (tree "syslog") (tree "syslog") setSyslog config
  let config ← xmlBlock (tree "simulation") (tree "simulation") setSimulation config
  -- the guard is that of the block before
  xmlBlock (tree "simulation") (tree "directory") setDirectory config

/-! ## Sections -/

/-- A section of the configuration, with its settings. -/
inductive Section where
  | network
  | serial
  | bus
  | syslog
  | simulation
  | directory
  deriving DecidableEq, Repr

/-- The name of its element. -/
def Section.element : Section → String
  | .network => "network"
  | .serial => "serial"
  | .bus => "bus"
  | .syslog => "syslog"
  | .simulation => "simulation"
  | .directory => "directory"

/-- The settings of a section: texts and numbers. -/
def Section.settings : Section → UbConfig → List (Option String) × List Int
  | .network, c => ([c.interface, c.base, c.multicastbase], [])
  | .serial, c => ([c.device], [c.rate])
  | .bus, c => ([], [c.nodetimeout])
  | .syslog, c => ([], [c.sysloglevel])
  | .simulation, c => ([], [c.demo])
  | .directory, c => ([], [c.dirserver])

/-- What the element of a section sets. -/
def Section.set (strtoull : String → Nat) : Section → Element → UbConfig → UbConfig
  | .network => setNetwork
  | .serial => setSerial strtoull
  | .bus => setBus strtoull
  | .syslog => setSyslog
  | .simulation => setSimulation
  | .directory => setDirectory

section Settings

variable {strtoull : String → Nat} {s r : Section} {c c' : UbConfig}

/-- Sections do not touch each other. -/
theorem settings_set_of_ne (h : s ≠ r) (e : Element) :
    s.settings (r.set strtoull e c) = s.settings c := by
  cases s <;> cases r <;> first | rfl | exact absurd rfl h

/-- What a section gets comes from its element, or was there before. -/
theorem settings_set (strtoull : String → Nat) (e : Element)
    (h : s.settings c = s.settings c') :
    s.settings (s.set strtoull e c) = s.settings (s.set strtoull e c') := by
  cases s with
  | network => rfl
  | serial =>
      simp only [Section.settings, Prod.mk.injEq, List.cons.injEq, and_true] at h
      simp only [Section.settings, Section.set, setSerial, h.2]
  | bus =>
      simp only [Section.settings, Prod.mk.injEq, List.cons.injEq, and_true, true_and] at h
      simp only [Section.settings, Section.set, setBus, h]
  | syslog =>
      simp only [Section.settings, Prod.mk.injEq, List.cons.injEq, and_true, true_and] at h
      simp only [Section.settings, Section.set, setSyslog, h]
  | simulation =>
      simp only [Section.settings, Prod.mk.injEq, List.cons.injEq, and_true, true_and] at h
      simp only [Section.settings, Section.set, setSimulation, h]
  | directory =>
      simp only [Section.settings, Prod.mk.injEq, List.cons.injEq, and_true, true_and] at h
      simp only [Section.settings, Section.set, setDirectory, h]

end Settings

/-! ## The sections with a guard of their own -/

/-- A section whose block asks for its own element. -/
def Section.apply (strtoull : String → Nat) (tree : Tree) (c : UbConfig) (s : Section) :
    UbConfig :=
  (tree s.element).elim c fun e => s.set strtoull e c

/-- The sections before the last, in their order. -/
def ownGuard : List Section := [.network, .serial, .bus, .syslog, .simulation]

section Own

variable {strtoull : String → Nat} {tree t₁ t₂ : Tree} {s r : Section} {c c' : UbConfig}

theorem xmlBlock_own (e : Option Element) (set : Element → UbConfig → UbConfig) :
    xmlBlock e e set c = .ok (e.elim c fun x => set x c) := by
  cases e <;> rfl

/-- Only the last block is not like this. -/
theorem xmlParsebase_eq (strtoull : String → Nat) (tree : Tree) (c : UbConfig) :
    xmlParsebase strtoull tree c = xmlBlock (tree "simulation") (tree "directory") setDirectory
      (ownGuard.foldl (Section.apply strtoull tree) c) := by
  unfold xmlParsebase
  simp only [xmlBlock_own, ok_bind]
  rfl

theorem settings_apply_of_ne (h : s ≠ r) :
    s.settings (r.apply strtoull tree c) = s.settings c := by
  unfold Section.apply
  cases tree r.element with
  | none => rfl
  | some e => exact settings_set_of_ne h e

/-- The others leave a section alone. -/
theorem settings_foldl_of_notMem {l : List Section} (h : s ∉ l) :
    s.settings (l.foldl (Section.apply strtoull tree) c) = s.settings c := by
  induction l generalizing c with
  | nil => rfl
  | cons r l ih =>
      rw [List.mem_cons, not_or] at h
      rw [List.foldl_cons, ih h.2, settings_apply_of_ne h.1]

/-- **A section only depends on its own element.** -/
theorem settings_foldl {l : List Section} (hnodup : l.Nodup)
    (h : t₁ s.element = t₂ s.element) (hc : s.settings c = s.settings c') :
    s.settings (l.foldl (Section.apply strtoull t₁) c)
      = s.settings (l.foldl (Section.apply strtoull t₂) c') := by
  induction l generalizing c c' with
  | nil => exact hc
  | cons r l ih =>
      obtain ⟨-, hnodup⟩ := List.nodup_cons.mp hnodup
      rw [List.foldl_cons, List.foldl_cons]
      refine ih hnodup ?_
      by_cases hr : s = r
      · subst hr
        unfold Section.apply
        rw [h]
        cases t₂ s.element with
        | none => exact hc
        | some e => exact settings_set strtoull e hc
      · rw [settings_apply_of_ne hr, settings_apply_of_ne hr, hc]

end Own

/-! ## Two runs -/

/-- Both runs come to their end, and agree on the settings of the section. -/
def RunsAgree (strtoull : String → Nat) (t₁ t₂ : Tree) (c : UbConfig) (s : Section) : Prop :=
  ∃ c₁ c₂, xmlParsebase strtoull t₁ c = .ok c₁ ∧ xmlParsebase strtoull t₂ c = .ok c₂
    ∧ s.settings c₁ = s.settings c₂

/-- A simulation is only configured together with a directory. -/
def DirectoryThere (tree : Tree) : Prop :=
  (tree "simulation").isSome → (tree "directory").isSome

/-- The element asks for no other `dirserver` than this one. -/
def AsksFor (e : Element) (dirserver : Int) : Prop :=
  (xmlGetAttribute e "server" = some "disabled" → dirserver = 0)
    ∧ (xmlGetAttribute e "server" = some "enabled" → dirserver = 1)

/-- When the last block does the same in both runs. -/
def SameDirectory (t₁ t₂ : Tree) (c : UbConfig) : Prop :=
  ((t₁ "simulation").isSome ↔ (t₂ "simulation").isSome)
    ∨ ∀ e, t₁ "directory" = some e → AsksFor e c.dirserver

/-- The condition of a section. -/
def Guarded (t₁ t₂ : Tree) (c : UbConfig) (s : Section) : Prop :=
  DirectoryThere t₁ ∧ DirectoryThere t₂ ∧ (s = .directory → SameDirectory t₁ t₂ c)

section TwoRuns

variable {strtoull : String → Nat} {tree t₁ t₂ : Tree} {s : Section} {c : UbConfig}

/-- A run that comes to its end. -/
theorem xmlParsebase_ok (h : DirectoryThere tree) : xmlParsebase strtoull tree c
    = .ok (let own := ownGuard.foldl (Section.apply strtoull tree) c
        if (tree "simulation").isSome then Section.directory.apply strtoull tree own else own) := by
  rw [xmlParsebase_eq]
  unfold xmlBlock
  dsimp only
  by_cases hsim : (tree "simulation").isSome = true
  · obtain ⟨e, he⟩ := Option.isSome_iff_exists.mp (h hsim)
    have hdirectory : tree Section.directory.element = some e := he
    rw [if_pos hsim, if_pos hsim, he, Section.apply, hdirectory]
    rfl
  · rw [if_neg hsim, if_neg hsim]

theorem directoryThere_of_ok {c' : UbConfig} (h : xmlParsebase strtoull tree c = .ok c') :
    DirectoryThere tree := by
  intro hsim
  rw [xmlParsebase_eq] at h
  unfold xmlBlock at h
  rw [if_pos hsim] at h
  cases hdirectory : tree "directory" with
  | none =>
      rw [hdirectory] at h
      cases h
  | some e => rfl

/-- The `dirserver` after the last block. -/
theorem setDirectory_eq_iff (e : Element) (c : UbConfig) :
    (setDirectory e c).dirserver = c.dirserver ↔ AsksFor e c.dirserver := by
  unfold setDirectory choose AsksFor
  dsimp only
  cases xmlGetAttribute e "server" with
  | none => simp
  | some w =>
      simp only [Option.some.injEq]
      by_cases hoff : w = "disabled"
      · subst hoff
        simp [eq_comm]
      · by_cases hon : w = "enabled"
        · subst hon
          simp [eq_comm]
        · simp [hoff, hon]

/-- The settings of the directory after a run. -/
theorem directory_settings (strtoull : String → Nat) (tree : Tree) (c : UbConfig) :
    Section.directory.settings (let own := ownGuard.foldl (Section.apply strtoull tree) c
        if (tree "simulation").isSome then Section.directory.apply strtoull tree own else own)
      = ([], [if (tree "simulation").isSome
          then (tree "directory").elim c.dirserver fun e => (setDirectory e c).dirserver
          else c.dirserver]) := by
  have hown : Section.directory.settings (ownGuard.foldl (Section.apply strtoull tree) c)
      = Section.directory.settings c := settings_foldl_of_notMem (by decide)
  dsimp only
  split
  · unfold Section.apply
    have helement : tree Section.directory.element = tree "directory" := rfl
    rw [helement]
    cases tree "directory" with
    | none => exact hown
    | some e => exact settings_set strtoull e hown
  · exact hown

/-- **The last block** does the same in two runs that come to their end. -/
theorem directory_agree_iff (h : t₁ "directory" = t₂ "directory") (h₁ : DirectoryThere t₁)
    (h₂ : DirectoryThere t₂) :
    Section.directory.settings (let own := ownGuard.foldl (Section.apply strtoull t₁) c
        if (t₁ "simulation").isSome then Section.directory.apply strtoull t₁ own else own)
      = Section.directory.settings (let own := ownGuard.foldl (Section.apply strtoull t₂) c
        if (t₂ "simulation").isSome then Section.directory.apply strtoull t₂ own else own)
      ↔ SameDirectory t₁ t₂ c := by
  rw [directory_settings, directory_settings, Prod.mk.injEq, List.cons.injEq]
  simp only [true_and, and_true]
  unfold SameDirectory
  unfold DirectoryThere at h₁ h₂
  rw [← h] at h₂ ⊢
  cases he : t₁ "directory" with
  | none =>
      -- then there is no simulation either
      have hoff₁ : ¬ (t₁ "simulation").isSome = true := fun hsim => by simpa [he] using h₁ hsim
      have hoff₂ : ¬ (t₂ "simulation").isSome = true := fun hsim => by simpa [he] using h₂ hsim
      rw [if_neg hoff₁, if_neg hoff₂]
      exact iff_of_true rfl (.inl (iff_of_false hoff₁ hoff₂))
  | some e =>
      have hasks : (∀ x, some e = some x → AsksFor x c.dirserver) ↔ AsksFor e c.dirserver :=
        ⟨fun hall => hall e rfl, fun hone x hx => Option.some.inj hx ▸ hone⟩
      rw [Option.elim_some, hasks, ← setDirectory_eq_iff]
      by_cases hsim₁ : (t₁ "simulation").isSome = true
      · rw [if_pos hsim₁]
        by_cases hsim₂ : (t₂ "simulation").isSome = true
        · rw [if_pos hsim₂]
          exact iff_of_true rfl (.inl (iff_of_true hsim₁ hsim₂))
        · rw [if_neg hsim₂]
          simp [hsim₁, hsim₂]
      · rw [if_neg hsim₁]
        by_cases hsim₂ : (t₂ "simulation").isSome = true
        · rw [if_pos hsim₂, eq_comm]
          simp [hsim₁, hsim₂]
        · rw [if_neg hsim₂]
          exact iff_of_true rfl (.inl (iff_of_false hsim₁ hsim₂))

/-- **A section is independent of the others** exactly when no tree has a simulation without a
directory and, for the directory, when the simulation is in both trees or in none, or the
element of the directory asks for what is set already. -/
theorem parsebase_independent_iff (strtoull : String → Nat) (t₁ t₂ : Tree) (c : UbConfig)
    (s : Section) (h : t₁ s.element = t₂ s.element) :
    RunsAgree strtoull t₁ t₂ c s ↔ Guarded t₁ t₂ c s := by
  have hown : s.settings (ownGuard.foldl (Section.apply strtoull t₁) c)
      = s.settings (ownGuard.foldl (Section.apply strtoull t₂) c) :=
    settings_foldl (by decide) h rfl
  have hlast : ∀ (tree : Tree) (x : UbConfig), s ≠ .directory →
      s.settings (if (tree "simulation").isSome then Section.directory.apply strtoull tree x
        else x) = s.settings x := by
    intro tree x hne
    split
    · exact settings_apply_of_ne hne
    · rfl
  constructor
  · rintro ⟨c₁, c₂, h₁, h₂, hagree⟩
    have hthere₁ := directoryThere_of_ok h₁
    have hthere₂ := directoryThere_of_ok h₂
    refine ⟨hthere₁, hthere₂, ?_⟩
    rintro rfl
    rw [xmlParsebase_ok hthere₁] at h₁
    rw [xmlParsebase_ok hthere₂] at h₂
    cases h₁
    cases h₂
    exact (directory_agree_iff h hthere₁ hthere₂).mp hagree
  · rintro ⟨hthere₁, hthere₂, hsame⟩
    refine ⟨_, _, xmlParsebase_ok hthere₁, xmlParsebase_ok hthere₂, ?_⟩
    by_cases hne : s = .directory
    · subst hne
      exact (directory_agree_iff h hthere₁ hthere₂).mpr (hsame rfl)
    · rw [hlast _ _ hne, hlast _ _ hne, hown]

end TwoRuns

/-- A configuration that only switches the simulation off. -/
def simulationOnly : Tree := fun name =>
  if name = "simulation" then some ⟨[("mode", "off")]⟩ else none

/-- The settings after `config_init`. -/
def configInit : UbConfig := ⟨none, none, none, none, 115200, 120, 7, 0, 0⟩

/-- **A simulation without a directory** follows a `NULL` pointer. -/
theorem simulation_only_faults :
    ¬ ∀ (strtoull : String → Nat) (t₁ t₂ : Tree) (c : UbConfig) (s : Section),
      t₁ s.element = t₂ s.element → RunsAgree strtoull t₁ t₂ c s := by
  intro hall
  obtain ⟨c₁, -, hrun, -, -⟩ :=
    hall (fun _ => 0) simulationOnly simulationOnly configInit .simulation rfl
  have hthere := directoryThere_of_ok hrun rfl
  cases hthere

/-- A configuration of a directory, a simulation in this mode and this timeout. -/
def simulatedTree (mode : String) (timeout : Option String) : Tree := fun name =>
  if name = "simulation" then some ⟨[("mode", mode)]⟩
  else if name = "directory" then some ⟨[("server", "enabled")]⟩
  else if name = "bus" then timeout.map fun timeout => ⟨[("timeout", timeout)]⟩
  else none

/-- Two configurations with the same directory. -/
theorem parsebase_independent_iff_same :
    simulatedTree "off" none (Section.element .directory)
        = simulatedTree "demo" (some "5") (Section.element .directory)
      ∧ RunsAgree (fun _ => 5) (simulatedTree "off" none) (simulatedTree "demo" (some "5"))
        configInit .directory := by
  have hguarded : Guarded (simulatedTree "off" none) (simulatedTree "demo" (some "5")) configInit
      .directory := ⟨fun _ => rfl, fun _ => rfl, fun _ => .inl Iff.rfl⟩
  exact ⟨rfl, (parsebase_independent_iff (fun _ => 5) (simulatedTree "off" none)
    (simulatedTree "demo" (some "5")) configInit .directory rfl).mpr hguarded⟩

end Ubd
