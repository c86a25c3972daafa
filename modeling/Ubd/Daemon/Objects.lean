import Ubd.Daemon.Net

/-!
# Daemon.Objects — the table of GLib objects

Objects are only ever added to the table, and keep their kind. The source of a UDP socket
is added right behind it, so that the table itself says whose an object is. `Work` is what
can be done to the table on behalf of some nodes: the objects of all others stay as they
are.
-/

namespace Ubd

namespace Objects

/-! ## Kinds and owners -/

def kindAt (o : Objects) (h : Handle) : Option ObjectKind := (o.all[h]?).map Object.kind

/-- The node an object belongs to. A socket belongs to the node of the source behind it; the
sockets to ubnetd, and those that could not be bound, have none. -/
def ownerAt (o : Objects) (h : Handle) : Option NodeId :=
  match o.kindAt h with
  | some (.source sd) => some sd.node
  | some (.service sd) => some sd.node
  | some .socket =>
      match o.kindAt (h + 1) with
      | some (.source sd) => some sd.node
      | _ => none
  | none => none

/-- The objects of a node. -/
def owned (o : Objects) (n : NodeId) (h : Handle) : Option Object :=
  if o.ownerAt h = some n then o.all[h]? else none

/-- What is released is closed. -/
def Live (o : Objects) : Prop :=
  ∀ (h : Handle) (x : Object), o.all[h]? = some x → x.isOpen = true → x.released = false

section Owners

variable {o o' : Objects} {h : Handle} {n : NodeId} {sd : SocketRef} {x : Object}

theorem kindAt_eq_some {kind : ObjectKind} :
    o.kindAt h = some kind ↔ ∃ x, o.all[h]? = some x ∧ x.kind = kind :=
  Option.map_eq_some_iff

theorem lt_of_kindAt {kind : ObjectKind} (hk : o.kindAt h = some kind) : h < o.all.length := by
  obtain ⟨x, hx, -⟩ := kindAt_eq_some.mp hk
  exact (List.getElem?_eq_some_iff.mp hx).1

/-- Who has an owner is in the table. -/
theorem kindAt_of_owner (hn : o.ownerAt h ≠ none) : ∃ kind, o.kindAt h = some kind := by
  cases hk : o.kindAt h with
  | none => exact absurd (by simp only [ownerAt, hk]) hn
  | some kind => exact ⟨kind, rfl⟩

theorem ownerAt_source (hk : o.kindAt h = some (.source sd)) : o.ownerAt h = some sd.node := by
  simp only [ownerAt, hk]

theorem ownerAt_service (hk : o.kindAt h = some (.service sd)) : o.ownerAt h = some sd.node := by
  simp only [ownerAt, hk]

theorem ownerAt_socket (hk : o.kindAt h = some .socket)
    (hs : o.kindAt (h + 1) = some (.source sd)) : o.ownerAt h = some sd.node := by
  simp only [ownerAt, hk, hs]

/-- Owners depend on the kind of an object and on whether a source is behind it. -/
theorem ownerAt_congr (hk : o'.kindAt h = o.kindAt h)
    (hs : ∀ sd, o'.kindAt (h + 1) = some (.source sd) ↔ o.kindAt (h + 1) = some (.source sd)) :
    o'.ownerAt h = o.ownerAt h := by
  unfold ownerAt
  rw [hk]
  split
  · rfl
  · rfl
  · -- only a socket looks at what is behind it
    split
    · rename_i sd hsd
      rw [(hs sd).mp hsd]
    · rename_i hno
      split
      · rename_i sd hsd
        exact absurd ((hs sd).mpr hsd) (hno sd)
      · rfl
  · rfl

theorem owned_eq_some : o.owned n h = some x ↔ o.ownerAt h = some n ∧ o.all[h]? = some x := by
  unfold owned
  split <;> simp [*]

theorem owned_of_owner (hn : o.ownerAt h = some n) : o.owned n h = o.all[h]? := if_pos hn

end Owners

/-! ## Work on the table -/

/-- Whatever is done on behalf of the nodes in `P`. -/
structure Work (P : NodeId → Prop) (o o' : Objects) : Prop where
  kind : ∀ h kind, o.kindAt h = some kind → o'.kindAt h = some kind
  owner : ∀ h kind, o.kindAt h = some kind → o'.ownerAt h = o.ownerAt h
  source : ∀ h sd, o'.kindAt h = some (.source sd) →
    o.kindAt h = some (.source sd) ∨ P sd.node
  others : ∀ n, ¬ P n → o'.owned n = o.owned n
  live : o.Live → o'.Live

namespace Work

variable {P Q : NodeId → Prop} {a b c : Objects}

theorem refl (P : NodeId → Prop) (o : Objects) : Work P o o where
  kind := fun _ _ h => h
  owner := fun _ _ _ => rfl
  source := fun _ _ h => .inl h
  others := fun _ _ => rfl
  live := fun h => h

theorem trans (h : Work P a b) (h' : Work P b c) : Work P a c where
  kind := fun k kind hk => h'.kind k kind (h.kind k kind hk)
  owner := fun k kind hk => (h'.owner k kind (h.kind k kind hk)).trans (h.owner k kind hk)
  source := by
    intro k sd hk
    rcases h'.source k sd hk with hb | hP
    · exact h.source k sd hb
    · exact .inr hP
  others := fun n hn => (h'.others n hn).trans (h.others n hn)
  live := fun ha => h'.live (h.live ha)

theorem mono (h : Work P a b) (hle : ∀ n, P n → Q n) : Work Q a b where
  kind := h.kind
  owner := h.owner
  source := fun k sd hk => (h.source k sd hk).imp_right (hle sd.node)
  others := fun n hn => h.others n fun hP => hn (hle n hP)
  live := h.live

end Work

/-! ## Closing objects -/

section Use

variable (o : Objects) {f : Object → Object} {h k : Handle}

theorem all_use_ne (hne : k ≠ h) : (o.use f (some h)).all[k]? = o.all[k]? := by
  unfold use
  dsimp only
  cases o.all[h]? with
  | none => rfl
  | some x =>
      dsimp only
      split
      · rfl
      · exact List.getElem?_set_ne (Ne.symm hne)

/-- What is used is still there, as it was or with `f` done to it. -/
theorem all_use_self {x : Object} (hx : o.all[h]? = some x) :
    (o.use f (some h)).all[h]? = some (if x.released then x else f x) := by
  have hlt : h < o.all.length := (List.getElem?_eq_some_iff.mp hx).1
  unfold use
  simp only [hx]
  split
  · exact hx
  · exact List.getElem?_set_self hlt

theorem all_use_none (hx : o.all[h]? = none) : o.use f (some h) = o := by
  unfold use
  simp only [hx]

theorem length_use (i : Option Handle) : (o.use f i).all.length = o.all.length := by
  cases i with
  | none => rfl
  | some h =>
      unfold use
      dsimp only
      cases o.all[h]? with
      | none => rfl
      | some x =>
          dsimp only
          split
          · rfl
          · exact List.length_set

theorem kindAt_use (hf : ∀ x, (f x).kind = x.kind) (i : Option Handle) :
    (o.use f i).kindAt k = o.kindAt k := by
  cases i with
  | none => rfl
  | some h =>
      unfold kindAt
      by_cases hk : k = h
      · subst hk
        cases hx : o.all[k]? with
        | none => rw [o.all_use_none hx, hx]
        | some x =>
            rw [o.all_use_self hx, Option.map_some, Option.map_some]
            split
            · rfl
            · rw [hf]
      · rw [o.all_use_ne hk]

theorem ownerAt_use (hf : ∀ x, (f x).kind = x.kind) (i : Option Handle) :
    (o.use f i).ownerAt k = o.ownerAt k :=
  ownerAt_congr (o.kindAt_use hf i) fun sd => by rw [o.kindAt_use hf i]

/-- What has been closed or released is not open. -/
theorem use_closed (hlive : o.Live) (hclosed : ∀ x, (f x).isOpen = false) {x : Object}
    (hx : (o.use f (some h)).all[h]? = some x) : x.isOpen = false := by
  cases hy : o.all[h]? with
  | none =>
      rw [o.all_use_none hy, hy] at hx
      cases hx
  | some y =>
      rw [o.all_use_self hy] at hx
      cases hx
      split
      · rename_i hr
        by_contra hopen
        have hfalse := hlive h y hy (by simpa using hopen)
        rw [hr] at hfalse
        cases hfalse
      · exact hclosed y

/-- Closing or releasing an object of a node in `P`, or of none. -/
theorem work_use {P : NodeId → Prop} (hf : ∀ x, (f x).kind = x.kind)
    (hclosed : ∀ x, (f x).isOpen = false) (i : Option Handle)
    (hP : ∀ h n, i = some h → o.ownerAt h = some n → P n) : Work P o (o.use f i) where
  kind := by
    intro k kind hk
    rw [o.kindAt_use hf]
    exact hk
  owner := fun k kind _ => o.ownerAt_use hf i
  source := by
    intro k sd hk
    rw [o.kindAt_use hf] at hk
    exact .inl hk
  others := by
    intro n hn
    cases i with
    | none => rfl
    | some h =>
        funext k
        unfold owned
        rw [o.ownerAt_use hf]
        split
        · rename_i hk
          refine o.all_use_ne fun heq => ?_
          subst heq
          exact hn (hP k n rfl hk)
        · rfl
  live := by
    intro hlive k x hx hopen
    cases i with
    | none => exact hlive k x hx hopen
    | some h =>
        by_cases hk : k = h
        · subst hk
          rw [o.use_closed hlive hclosed hx] at hopen
          cases hopen
        · rw [o.all_use_ne hk] at hx
          exact hlive k x hx hopen

/-- `close` and `unref`, as they are done together. -/
def drop (i : Option Handle) : Objects := (o.close i).unref i

theorem work_unref {P : NodeId → Prop} (i : Option Handle)
    (hP : ∀ h n, i = some h → o.ownerAt h = some n → P n) : Work P o (o.unref i) :=
  o.work_use (f := fun x => { x with isOpen := false, released := true }) (fun _ => rfl)
    (fun _ => rfl) i hP

theorem work_drop {P : NodeId → Prop} (i : Option Handle)
    (hP : ∀ h n, i = some h → o.ownerAt h = some n → P n) : Work P o (o.drop i) := by
  have hclose : Work P o (o.close i) :=
    o.work_use (f := fun x => { x with isOpen := false }) (fun _ => rfl) (fun _ => rfl) i hP
  refine hclose.trans ((o.close i).work_unref i fun h n hi hn => hP h n hi ?_)
  rw [← hn]
  exact (o.ownerAt_use (f := fun x => { x with isOpen := false }) (fun _ => rfl) i).symm

theorem length_drop (i : Option Handle) : (o.drop i).all.length = o.all.length :=
  ((o.close i).length_use i).trans (o.length_use i)

theorem kindAt_drop (i : Option Handle) : (o.drop i).kindAt k = o.kindAt k :=
  ((o.close i).kindAt_use (f := fun x => { x with isOpen := false, released := true })
    (fun _ => rfl) i).trans
    (o.kindAt_use (f := fun x => { x with isOpen := false }) (fun _ => rfl) i)

theorem ownerAt_drop (i : Option Handle) : (o.drop i).ownerAt k = o.ownerAt k :=
  ownerAt_congr (o.kindAt_drop i) fun sd => by rw [o.kindAt_drop i]

theorem all_drop_ne (hne : k ≠ h) : (o.drop (some h)).all[k]? = o.all[k]? :=
  ((o.close (some h)).all_use_ne hne).trans (o.all_use_ne hne)

theorem live_close (hlive : o.Live) (i : Option Handle) : (o.close i).Live :=
  (o.work_use (P := fun _ => True) (f := fun x => { x with isOpen := false }) (fun _ => rfl)
    (fun _ => rfl) i fun _ _ _ _ => trivial).live hlive

theorem live_drop (hlive : o.Live) (i : Option Handle) : (o.drop i).Live :=
  (o.work_drop (P := fun _ => True) i fun _ _ _ _ => trivial).live hlive

theorem drop_closed (hlive : o.Live) {x : Object} (hx : (o.drop (some h)).all[h]? = some x) :
    x.isOpen = false :=
  (o.close (some h)).use_closed (f := fun x => { x with isOpen := false, released := true })
    (o.live_close hlive _) (fun _ => rfl) hx

/-- Using what is not released is no misuse. -/
theorem misused_use {x : Object} (hx : o.all[h]? = some x) (hr : x.released = false) :
    (o.use f (some h)).misused = o.misused := by
  simp only [use, hx, hr, Bool.false_eq_true, if_false]

/-- Dropping what is not released is no misuse. -/
theorem misused_drop {x : Object} (hx : o.all[h]? = some x) (hr : x.released = false) :
    (o.drop (some h)).misused = o.misused := by
  have hclose : (o.close (some h)).all[h]? = some { x with isOpen := false } := by
    rw [close, o.all_use_self hx, if_neg (by simp [hr])]
  exact ((o.close (some h)).misused_use hclose hr).trans (o.misused_use hx hr)

/-- The object has been released. -/
def Released (h : Handle) : Prop := ∃ x, o.all[h]? = some x ∧ x.released = true

/-- What is misused after dropping an object was misused before, or is that object. -/
theorem mem_misused_drop {i : Option Handle} (hk : k ∈ (o.drop i).misused) :
    k ∈ o.misused ∨ i = some k := by
  have huse : ∀ (o : Objects) (f : Object → Object), k ∈ (o.use f i).misused →
      k ∈ o.misused ∨ i = some k := by
    intro o f hk
    cases i with
    | none => exact .inl hk
    | some h =>
        unfold use at hk
        dsimp only at hk
        split at hk
        · exact .inl hk
        · split at hk
          · rcases List.mem_append.mp hk with hk | hk
            · exact .inl hk
            · exact .inr (congrArg some (List.mem_singleton.mp hk).symm)
          · exact .inl hk
  rcases huse _ _ hk with hk | hk
  · exact huse _ _ hk
  · exact .inr hk

theorem released_use {f : Object → Object} {i : Option Handle} (hk : o.Released k) :
    (o.use f i).Released k := by
  obtain ⟨x, hx, hr⟩ := hk
  cases i with
  | none => exact ⟨x, hx, hr⟩
  | some h =>
      by_cases heq : k = h
      · subst heq
        refine ⟨_, o.all_use_self hx, ?_⟩
        rw [if_pos hr]
        exact hr
      · exact ⟨x, (o.all_use_ne heq).trans hx, hr⟩

theorem released_drop {i : Option Handle} (hk : o.Released k) : (o.drop i).Released k :=
  (o.close i).released_use (o.released_use hk)

/-- What is dropped is released. -/
theorem drop_released {x : Object} (hx : o.all[h]? = some x) : (o.drop (some h)).Released h := by
  have hclose : (o.close (some h)).all[h]?
      = some (if x.released then x else { x with isOpen := false }) := o.all_use_self hx
  refine ⟨_, (o.close (some h)).all_use_self hclose, ?_⟩
  split
  · assumption
  · rfl

end Use

/-! ## Adding objects -/

/-- New objects, which are open. -/
def add (o : Objects) (kinds : List ObjectKind) : Objects :=
  { o with all := o.all ++ kinds.map fun kind => ⟨kind, true, false⟩ }

section Add

variable (o : Objects) {kinds : List ObjectKind} {h : Handle}

theorem create_eq_add (kind : ObjectKind) : (o.create kind).1 = o.add [kind] := rfl

theorem add_add (kinds kinds' : List ObjectKind) :
    (o.add kinds).add kinds' = o.add (kinds ++ kinds') := by
  simp only [add, List.map_append, List.append_assoc]

theorem all_add_left (hlt : h < o.all.length) : (o.add kinds).all[h]? = o.all[h]? :=
  List.getElem?_append_left hlt

theorem kindAt_add_left (hlt : h < o.all.length) : (o.add kinds).kindAt h = o.kindAt h := by
  unfold kindAt
  rw [o.all_add_left hlt]

theorem kindAt_add_right (hle : o.all.length ≤ h) :
    (o.add kinds).kindAt h = kinds[h - o.all.length]? := by
  have hall : (o.add kinds).all[h]?
      = (kinds.map fun kind => (⟨kind, true, false⟩ : Object))[h - o.all.length]? :=
    List.getElem?_append_right hle
  unfold kindAt
  rw [hall, List.getElem?_map, Option.map_map]
  exact Option.map_id'

/-- Adding objects that do not begin with a source does not change who the others belong
to. -/
theorem ownerAt_add_left (hhead : ∀ sd, kinds[0]? ≠ some (.source sd)) (hlt : h < o.all.length) :
    (o.add kinds).ownerAt h = o.ownerAt h := by
  refine ownerAt_congr (o.kindAt_add_left hlt) fun sd => ?_
  by_cases hnext : h + 1 < o.all.length
  · rw [o.kindAt_add_left hnext]
  · have hend : o.kindAt (h + 1) = none := by
      unfold kindAt
      rw [List.getElem?_eq_none (Nat.le_of_not_lt hnext)]
      rfl
    have hzero : h + 1 - o.all.length = 0 := Nat.sub_eq_zero_of_le hlt
    rw [o.kindAt_add_right (Nat.le_of_not_lt hnext), hend, hzero]
    simp [hhead sd]

/-- New objects belong to the nodes they are made for. -/
theorem ownerAt_add_right {P : NodeId → Prop}
    (hP : ∀ sd, .source sd ∈ kinds ∨ .service sd ∈ kinds → P sd.node) (hle : o.all.length ≤ h)
    {n : NodeId} (hn : (o.add kinds).ownerAt h = some n) : P n := by
  have hkind : (o.add kinds).kindAt h = kinds[h - o.all.length]? := o.kindAt_add_right hle
  have hnext : (o.add kinds).kindAt (h + 1) = kinds[h + 1 - o.all.length]? :=
    o.kindAt_add_right (Nat.le_succ_of_le hle)
  unfold ownerAt at hn
  rw [hkind, hnext] at hn
  split at hn
  · rename_i sd hsd
    cases hn
    exact hP sd (.inl (List.mem_of_getElem? hsd))
  · rename_i sd hsd
    cases hn
    exact hP sd (.inr (List.mem_of_getElem? hsd))
  · split at hn
    · rename_i sd hsd
      cases hn
      exact hP sd (.inl (List.mem_of_getElem? hsd))
    · cases hn
  · cases hn

theorem work_add {P : NodeId → Prop} (hhead : ∀ sd, kinds[0]? ≠ some (.source sd))
    (hP : ∀ sd, .source sd ∈ kinds ∨ .service sd ∈ kinds → P sd.node) :
    Work P o (o.add kinds) where
  kind := by
    intro k kind hk
    rw [o.kindAt_add_left (lt_of_kindAt hk)]
    exact hk
  owner := fun k kind hk => o.ownerAt_add_left hhead (lt_of_kindAt hk)
  source := by
    intro k sd hk
    by_cases hlt : k < o.all.length
    · rw [o.kindAt_add_left hlt] at hk
      exact .inl hk
    · rw [o.kindAt_add_right (Nat.le_of_not_lt hlt)] at hk
      exact .inr (hP sd (.inl (List.mem_of_getElem? hk)))
  others := by
    intro n hn
    funext k
    unfold owned
    by_cases hlt : k < o.all.length
    · rw [o.ownerAt_add_left hhead hlt, o.all_add_left hlt]
    · have hold : o.all[k]? = none := List.getElem?_eq_none (Nat.le_of_not_lt hlt)
      rw [hold, ite_self, if_neg]
      exact fun hown => hn (o.ownerAt_add_right hP (Nat.le_of_not_lt hlt) hown)
  live := by
    intro hlive k x hx hopen
    by_cases hlt : k < o.all.length
    · rw [o.all_add_left hlt] at hx
      exact hlive k x hx hopen
    · have hall : (o.add kinds).all[k]?
          = (kinds.map fun kind => (⟨kind, true, false⟩ : Object))[k - o.all.length]? :=
        List.getElem?_append_right (Nat.le_of_not_lt hlt)
      rw [hall, List.getElem?_map, Option.map_eq_some_iff] at hx
      obtain ⟨kind, -, rfl⟩ := hx
      rfl

theorem Released.create {o : Objects} (hh : o.Released h) (kind : ObjectKind) :
    (o.create kind).1.Released h := by
  obtain ⟨x, hx, hr⟩ := hh
  rw [o.create_eq_add]
  exact ⟨x, (o.all_add_left (List.getElem?_eq_some_iff.mp hx).1).trans hx, hr⟩

theorem work_socket (P : NodeId → Prop) : Work P o (o.create .socket).1 := by
  rw [create_eq_add]
  exact o.work_add (by simp) (by simp)

/-- A socket that is made alone is nobody's. -/
theorem create_socket : (o.create .socket).1.kindAt o.all.length = some .socket
    ∧ (o.create .socket).1.ownerAt o.all.length = none := by
  have hkind : (o.add [.socket]).kindAt o.all.length = some .socket := by
    rw [o.kindAt_add_right le_rfl]
    simp
  refine ⟨hkind, ?_⟩
  cases hown : (o.add [.socket]).ownerAt o.all.length with
  | none => exact hown
  | some n =>
      exact (o.ownerAt_add_right (P := fun _ => False) (by simp) le_rfl hown).elim

end Add

/-! ## What is open -/

/-- An object of the node is open. -/
def OpenAt (o : Objects) (n : NodeId) (h : Handle) : Prop :=
  ∃ x, o.owned n h = some x ∧ x.isOpen = true

/-- The objects behind these handles are the ones of the node that are open. -/
structure OpenExactly (o : Objects) (n : NodeId) (l : List (Option Handle)) : Prop where
  stored : none ∉ l
  mem : ∀ h, o.OpenAt n h ↔ some h ∈ l

section OpenAt

variable {o o' : Objects} {n : NodeId} {h : Handle} {l : List (Option Handle)}

theorem openAt_iff : o.OpenAt n h
    ↔ o.ownerAt h = some n ∧ ∃ x, o.all[h]? = some x ∧ x.isOpen = true := by
  unfold OpenAt
  simp only [owned_eq_some, and_assoc, exists_and_left]

theorem OpenAt.lt (hopen : o.OpenAt n h) : h < o.all.length := by
  obtain ⟨-, x, hx, -⟩ := openAt_iff.mp hopen
  exact (List.getElem?_eq_some_iff.mp hx).1

theorem openAt_congr (howned : o'.owned n = o.owned n) : o'.OpenAt n = o.OpenAt n := by
  unfold OpenAt
  rw [howned]

theorem OpenExactly.congr (hopen : o.OpenExactly n l) (howned : o'.owned n = o.owned n) :
    o'.OpenExactly n l := by
  refine ⟨hopen.stored, fun k => ?_⟩
  rw [openAt_congr howned]
  exact hopen.mem k

/-- Closing or releasing an object closes it, and no others. -/
theorem openAt_use {f : Object → Object} (hlive : o.Live) (hf : ∀ x, (f x).kind = x.kind)
    (hclosed : ∀ x, (f x).isOpen = false) (i : Option Handle) :
    (o.use f i).OpenAt n h ↔ o.OpenAt n h ∧ some h ≠ i := by
  rw [openAt_iff, openAt_iff, o.ownerAt_use hf i, and_assoc, and_congr_right_iff]
  intro _
  cases i with
  | none => simp [use]
  | some k =>
      by_cases hk : h = k
      · subst hk
        refine iff_of_false ?_ fun hboth => hboth.2 rfl
        rintro ⟨x, hx, hopen⟩
        rw [o.use_closed hlive hclosed hx] at hopen
        cases hopen
      · rw [o.all_use_ne hk]
        exact (and_iff_left fun heq => hk (Option.some.inj heq)).symm

theorem openAt_unref (hlive : o.Live) (i : Option Handle) :
    (o.unref i).OpenAt n h ↔ o.OpenAt n h ∧ some h ≠ i :=
  openAt_use (f := fun x => { x with isOpen := false, released := true }) hlive (fun _ => rfl)
    (fun _ => rfl) i

theorem openAt_drop (hlive : o.Live) (i : Option Handle) :
    (o.drop i).OpenAt n h ↔ o.OpenAt n h ∧ some h ≠ i := by
  have hclose : (o.close i).OpenAt n h ↔ o.OpenAt n h ∧ some h ≠ i :=
    openAt_use (f := fun x => { x with isOpen := false }) hlive (fun _ => rfl) (fun _ => rfl) i
  rw [drop, openAt_unref (o.live_close hlive i), hclose, and_assoc, and_self]

/-- Dropping objects closes them, and no others. -/
theorem openAt_drops (hlive : o.Live) (l : List (Option Handle)) :
    (l.foldl drop o).OpenAt n h ↔ o.OpenAt n h ∧ some h ∉ l := by
  induction l generalizing o with
  | nil => simp
  | cons i l ih =>
      rw [List.foldl_cons, ih (o.live_drop hlive i), openAt_drop hlive i, List.mem_cons, not_or,
        and_assoc]

/-- Dropping open objects, each once, is no misuse. -/
theorem misused_drops (hlive : o.Live) (hnodup : l.Nodup)
    (hopen : ∀ i ∈ l, ∃ h x, i = some h ∧ o.all[h]? = some x ∧ x.isOpen = true) :
    (l.foldl drop o).misused = o.misused := by
  induction l generalizing o with
  | nil => rfl
  | cons i l ih =>
      obtain ⟨hout, hrest⟩ := List.nodup_cons.mp hnodup
      obtain ⟨h, x, rfl, hx, hxopen⟩ := hopen i List.mem_cons_self
      -- the others are still open
      have hopen' : ∀ j ∈ l, ∃ k y, j = some k ∧ (o.drop (some h)).all[k]? = some y
          ∧ y.isOpen = true := by
        intro j hj
        obtain ⟨k, y, rfl, hy, hyopen⟩ := hopen j (List.mem_cons_of_mem _ hj)
        have hne : k ≠ h := by
          rintro rfl
          exact hout hj
        exact ⟨k, y, rfl, (o.all_drop_ne hne).trans hy, hyopen⟩
      rw [List.foldl_cons, ih (o.live_drop hlive _) hrest hopen',
        o.misused_drop hx (hlive h x hx hxopen)]

/-- New objects of a node are open, and nothing else changes. -/
theorem openAt_add {kinds : List ObjectKind} (hhead : ∀ sd, kinds[0]? ≠ some (.source sd))
    (hown : ∀ k, o.all.length ≤ k → k < o.all.length + kinds.length →
      (o.add kinds).ownerAt k = some n) :
    (o.add kinds).OpenAt n h
      ↔ o.OpenAt n h ∨ (o.all.length ≤ h ∧ h < o.all.length + kinds.length) := by
  have hlength : (o.add kinds).all.length = o.all.length + kinds.length := by
    show (o.all ++ kinds.map _).length = _
    rw [List.length_append, List.length_map]
  -- either it was there before, or it is one of the new ones
  by_cases hlt : h < o.all.length
  · rw [openAt_iff, openAt_iff, o.ownerAt_add_left hhead hlt, o.all_add_left hlt]
    exact (or_iff_left fun hnew => absurd hnew.1 (Nat.not_le_of_lt hlt)).symm
  · have hle := Nat.le_of_not_lt hlt
    rw [or_iff_right fun hold => hlt hold.lt]
    constructor
    · intro hopen
      exact ⟨hle, hlength ▸ hopen.lt⟩
    · rintro ⟨-, hend⟩
      have hall : (o.add kinds).all[h]?
          = (kinds.map fun kind => (⟨kind, true, false⟩ : Object))[h - o.all.length]? :=
        List.getElem?_append_right hle
      have hnew : h - o.all.length < kinds.length := Nat.sub_lt_left_of_lt_add hle hend
      refine openAt_iff.mpr ⟨hown h hle hend, ⟨kinds[h - o.all.length], true, false⟩, ?_, rfl⟩
      rw [hall, List.getElem?_map, List.getElem?_eq_getElem hnew]
      rfl

/-- What is open stays known when objects of the node are added. -/
theorem OpenExactly.add {kinds : List ObjectKind} {l' : List (Option Handle)}
    (hopen : o.OpenExactly n l) (hhead : ∀ sd, kinds[0]? ≠ some (.source sd))
    (hown : ∀ k, o.all.length ≤ k → k < o.all.length + kinds.length →
      (o.add kinds).ownerAt k = some n)
    (hstored : none ∉ l')
    (hmem : ∀ k, some k ∈ l' ↔ o.all.length ≤ k ∧ k < o.all.length + kinds.length) :
    (o.add kinds).OpenExactly n (l ++ l') := by
  refine ⟨fun hnone => ?_, fun k => ?_⟩
  · rcases List.mem_append.mp hnone with hnone | hnone
    · exact hopen.stored hnone
    · exact hstored hnone
  · rw [openAt_add hhead hown, hopen.mem k, List.mem_append, hmem k]

theorem openExactly_nil : o.OpenExactly n [] ↔ ∀ k, ¬ o.OpenAt n k := by
  constructor
  · intro hopen k hk
    exact List.not_mem_nil ((hopen.mem k).mp hk)
  · intro hclosed
    exact ⟨List.not_mem_nil, fun k => iff_of_false (hclosed k) List.not_mem_nil⟩

end OpenAt

end Objects

end Ubd
