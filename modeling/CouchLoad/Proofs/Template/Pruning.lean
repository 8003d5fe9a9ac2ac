import CouchLoad.Proofs.Json.Members
import CouchLoad.Proofs.Template.Conditional

/-!
# What pruning keeps

Pruning a value comes to a result just when every condition in it has a truth value, those in
dropped fields included. The result is the value with only its plain fields and those whose
conditions hold, the latter under their bare names. A bare name is never conditional, because the
condition reaches to the last mark of an end; so there is nothing left to prune.
-/

namespace CouchLoad

/-- The condition that a text is holds or fails if there is one and its value is a truth value. -/
lemma Condition.holds_eq_ok_iff {ctx : Context} {source : List Char} {b : Bool} :
    holds ctx source = .ok b ↔ ∃ e, parse source = .ok e ∧ e.eval ctx = .ok (.bool b) := by
  have htoBool : ∀ v : Value, v.toBool = .ok b ↔ v = .bool b := by
    intro v
    cases v <;> simp [Value.toBool]
  have hholds : ∀ e : Expr, e.holds ctx = .ok b ↔ e.eval ctx = .ok (.bool b) := by
    intro e
    refine mapError_eq_ok_iff.trans (bind_eq_ok_iff.trans ?_)
    simp [htoBool]
  exact bind_eq_ok_iff.trans (by simp [hholds])

namespace Template

open Text

variable {ctx : Context}

/-! ### Names -/

/-- A name that is not split into a condition and a bare name. -/
def Unconditional (name : String) : Prop :=
  splitConditional? name.toList = none

instance (name : String) : Decidable (Unconditional name) :=
  inferInstanceAs (Decidable (_ = _))

/-- There is no mark behind the last one. -/
lemma not_infix_of_splitAtLast? {mark s before after : List Char} (hmark : mark ≠ [])
    (h : splitAtLast? mark s = some (before, after)) : ¬ mark <:+: after := by
  induction s generalizing before with
  | nil => cases h
  | cons c s ih =>
    unfold splitAtLast? at h
    cases hlast : splitAtLast? mark s with
    | some out =>
      rw [hlast] at h
      cases h
      exact ih hlast
    | none =>
      rw [hlast] at h
      obtain ⟨after', hfront, hout⟩ := Option.map_eq_some_iff.1 h
      cases hout
      -- another mark would begin behind the first character of this one
      intro hin
      have hnone := (splitAtLast?_eq_none_iff hmark).1 hlast
      obtain ⟨m, mark', rfl⟩ := List.exists_cons_of_ne_nil hmark
      have heq := List.isPrefixOf?_eq_some_iff_append_eq.1 hfront
      rw [List.cons_append, List.cons.injEq] at heq
      have hsuffix : after <:+ s := ⟨mark', heq.2⟩
      exact hnone (hin.trans hsuffix.isInfix)

lemma unconditional_of_not_infix {name : String} (h : ¬ conditionEnd <:+: name.toList) :
    Unconditional name := by
  unfold Unconditional splitConditional?
  cases hbody : ['#', '{', 'i', 'f', '('].isPrefixOf? (trimStart name.toList) with
  | none => rfl
  | some body =>
    refine (splitAtLast?_eq_none_iff (by decide)).2 fun hin => h (hin.trans ?_)
    have hsuffix : body <:+ trimStart name.toList :=
      ⟨_, List.isPrefixOf?_eq_some_iff_append_eq.1 hbody⟩
    exact (hsuffix.trans (List.dropWhile_suffix _)).isInfix

/-- A field that is kept is kept under a name that is not conditional any more. -/
lemma unconditional_of_keptName {name name' : String} (h : keptName ctx name = .ok (some name')) :
    Unconditional name' := by
  unfold keptName at h
  split at h
  · rename_i hnone
    cases h
    exact hnone
  · rename_i source bare hsplit
    obtain ⟨body, -, hlast⟩ := Option.bind_eq_some_iff.1 hsplit
    split at h
    · cases h
      apply unconditional_of_not_infix
      rw [String.toList_ofList]
      exact not_infix_of_splitAtLast? (by decide) hlast
    · cases h
    · cases h

/-- The condition in a name, if there is one, has a truth value. -/
def Settled (ctx : Context) (name : String) : Prop :=
  ∀ source bare, splitConditional? name.toList = some (source, bare) →
    ∃ e b, Condition.parse source = .ok e ∧ e.eval ctx = .ok (.bool b)

/-- The name of a field in the result: its own, or the bare name if its condition holds. -/
def resultName? (ctx : Context) (name : String) : Option String :=
  match splitConditional? name.toList with
  | none => some name
  | some (source, bare) =>
    match Condition.holds ctx source with
    | .ok true => some (String.ofList bare)
    | _ => none

lemma Unconditional.settled {name : String} (h : Unconditional name) : Settled ctx name := by
  intro source bare hsplit
  rw [h] at hsplit
  cases hsplit

lemma resultName?_of_unconditional {name : String} (h : Unconditional name) :
    resultName? ctx name = some name := by
  rw [resultName?, h]

lemma settled_of_keptName {name : String} {found : Option String}
    (h : keptName ctx name = .ok found) : Settled ctx name := by
  intro source bare hsplit
  rw [keptName, hsplit] at h
  cases hholds : Condition.holds ctx source with
  | ok b =>
    obtain ⟨e, hparse, heval⟩ := Condition.holds_eq_ok_iff.1 hholds
    exact ⟨e, b, hparse, heval⟩
  | error e => simp [hholds] at h

lemma keptName_of_settled {name : String} (h : Settled ctx name) :
    keptName ctx name = .ok (resultName? ctx name) := by
  rw [keptName, resultName?]
  cases hsplit : splitConditional? name.toList with
  | none => rfl
  | some parts =>
    obtain ⟨source, bare⟩ := parts
    obtain ⟨e, b, hparse, heval⟩ := h source bare hsplit
    have hholds := Condition.holds_eq_ok_iff.2 ⟨e, hparse, heval⟩
    cases b <;> simp [hholds]

lemma settled_iff {name : String} : Settled ctx name ↔ (keptName ctx name).isOk := by
  constructor
  · intro h
    rw [keptName_of_settled h]
    rfl
  · intro h
    cases hfound : keptName ctx name with
    | ok found => exact settled_of_keptName hfound
    | error e =>
      rw [hfound] at h
      cases h

instance (name : String) : Decidable (Settled ctx name) :=
  decidable_of_iff _ settled_iff.symm

/-! ### When there is a result -/

mutual

/-- Pruning fails on a condition without a truth value wherever it stands, and on nothing else. -/
lemma exists_prune_iff (v : Json) :
    (∃ w, prune ctx v = .ok w) ↔ ∀ name ∈ v.names, Settled ctx name := by
  match v with
  | .null | .bool _ | .number _ | .string _ => simp [prune, Json.names]
  | .array items =>
    rw [Json.names, ← exists_pruneItems_iff items, prune]
    simp [bind_eq_ok_iff, pure, Except.pure]
  | .object members =>
    rw [Json.names, ← exists_pruneMembers_iff [] members, prune]
    simp [bind_eq_ok_iff, pure, Except.pure]

lemma exists_pruneItems_iff (items : List Json) :
    (∃ items', pruneItems ctx items = .ok items') ↔
      ∀ name ∈ Json.namesOfItems items, Settled ctx name := by
  match items with
  | [] => simp [pruneItems, Json.namesOfItems]
  | v :: items =>
    rw [Json.namesOfItems, List.forall_mem_append, ← exists_prune_iff v,
      ← exists_pruneItems_iff items, pruneItems]
    simp [bind_eq_ok_iff, pure, Except.pure]

lemma exists_pruneMembers_iff (kept : Table Json) (members : List (String × Json)) :
    (∃ pruned, pruneMembers ctx kept members = .ok pruned) ↔
      ∀ name ∈ Json.namesOfMembers members, Settled ctx name := by
  match members with
  | [] => simp [pruneMembers, Json.namesOfMembers]
  | (key, v) :: members =>
    rw [Json.namesOfMembers, List.forall_mem_cons, List.forall_mem_append, ← exists_prune_iff v,
      pruneMembers]
    constructor
    · rintro ⟨pruned, h⟩
      obtain ⟨v', hv, h⟩ := bind_eq_ok_iff.1 h
      obtain ⟨found, hfound, h⟩ := bind_eq_ok_iff.1 h
      refine ⟨settled_of_keptName hfound, ⟨v', hv⟩, ?_⟩
      cases found with
      | none => exact (exists_pruneMembers_iff kept members).1 ⟨pruned, h⟩
      | some key' => exact (exists_pruneMembers_iff (kept.insert key' v') members).1 ⟨pruned, h⟩
    · rintro ⟨hkey, ⟨v', hv⟩, hmembers⟩
      -- what is kept so far makes no difference for the members that follow
      have hrest : ∀ kept, ∃ pruned, pruneMembers ctx kept members = .ok pruned :=
        fun kept => (exists_pruneMembers_iff kept members).2 hmembers
      simp only [bind_eq_ok_iff, hv, keptName_of_settled hkey, Except.ok.injEq, exists_eq_left']
      cases resultName? ctx key with
      | none => exact hrest kept
      | some key' => exact hrest (kept.insert key' v')

end

/-! ### Results -/

/-- A tidy value without conditional names. -/
structure Pruned (v : Json) : Prop where
  tidy : v.Tidy
  unconditional : ∀ name ∈ v.names, Unconditional name

namespace Pruned

lemma array {items : List Json} (h : ∀ v ∈ items, Pruned v) : Pruned (.array items) := by
  constructor
  · exact .array fun v hv => (h v hv).tidy
  · intro name hname
    obtain ⟨v, hv, hin⟩ := Json.mem_namesOfItems_iff.1 hname
    exact (h v hv).unconditional name hin

lemma object_nil : Pruned (.object []) := by
  constructor
  · simp
  · simp [Json.names, Json.namesOfMembers]

lemma insert {t : Table Json} {key : String} {v : Json} (h : Pruned (.object t))
    (hkey : Unconditional key) (hv : Pruned v) : Pruned (.object (t.insert key v)) := by
  obtain ⟨hkeys, hvalues⟩ := Json.tidy_object_iff.1 h.tidy
  constructor
  · exact .object (Table.nodup_keys_insert hkeys key v) (Json.tidy_insert hvalues key hv.tidy)
  · intro name hname
    rcases Json.mem_namesOfMembers_insert hname with rfl | hname | hname
    · exact hkey
    · exact hv.unconditional name hname
    · exact h.unconditional name hname

end Pruned

mutual

/-- What pruning returns is tidy and holds no conditional name, whatever it is made of. -/
lemma pruned_of_prune (v : Json) {w : Json} (h : prune ctx v = .ok w) : Pruned w := by
  match v with
  | .null | .bool _ | .number _ | .string _ =>
    simp only [prune, Except.ok.injEq] at h
    rw [← h]
    constructor <;> simp [Json.names]
  | .array items =>
    rw [prune] at h
    obtain ⟨items', hitems, hout⟩ := bind_eq_ok_iff.1 h
    cases hout
    exact .array (pruned_of_pruneItems items hitems)
  | .object members =>
    rw [prune] at h
    obtain ⟨members', hmembers, hout⟩ := bind_eq_ok_iff.1 h
    cases hout
    exact pruned_of_pruneMembers members .object_nil hmembers

lemma pruned_of_pruneItems (items : List Json) {items' : List Json}
    (h : pruneItems ctx items = .ok items') : ∀ v ∈ items', Pruned v := by
  match items with
  | [] =>
    rw [pruneItems] at h
    cases h
    simp
  | v :: items =>
    rw [pruneItems] at h
    obtain ⟨v', hv, h⟩ := bind_eq_ok_iff.1 h
    obtain ⟨items', hitems, hout⟩ := bind_eq_ok_iff.1 h
    cases hout
    exact List.forall_mem_cons.2 ⟨pruned_of_prune v hv, pruned_of_pruneItems items hitems⟩

lemma pruned_of_pruneMembers (members : List (String × Json)) {kept pruned : Table Json}
    (hkept : Pruned (.object kept)) (h : pruneMembers ctx kept members = .ok pruned) :
    Pruned (.object pruned) := by
  match members with
  | [] =>
    rw [pruneMembers] at h
    cases h
    exact hkept
  | (key, v) :: members =>
    rw [pruneMembers] at h
    obtain ⟨v', hv, h⟩ := bind_eq_ok_iff.1 h
    obtain ⟨found, hfound, h⟩ := bind_eq_ok_iff.1 h
    cases found with
    | none => exact pruned_of_pruneMembers members hkept h
    | some key' =>
      have hinsert := hkept.insert (unconditional_of_keptName hfound) (pruned_of_prune v hv)
      exact pruned_of_pruneMembers members hinsert h

end

/-! ### Selection -/

/-- A value in which every object holds its plain fields and those whose conditions hold, in their
order and under the names that they have in the result. -/
def select (ctx : Context) : Json → Json
  | .array items => .array (items.map (select ctx))
  | .object members => .object (members.filterMap fun member =>
      (resultName? ctx member.1).map (·, select ctx member.2))
  | v => v
decreasing_by
  · have hsize := List.sizeOf_lt_of_mem ‹_ ∈ items›
    simp only [Json.array.sizeOf_spec]
    omega
  · have hsize := List.sizeOf_lt_of_mem ‹_ ∈ members›
    simp only [Json.object.sizeOf_spec]
    rw [Prod.mk.sizeOf_spec] at hsize
    omega

/-- The members that are selected among those of an object. -/
def selectMembers (ctx : Context) (members : List (String × Json)) : List (String × Json) :=
  members.filterMap fun member => (resultName? ctx member.1).map (·, select ctx member.2)

lemma select_object (members : List (String × Json)) :
    select ctx (.object members) = .object (selectMembers ctx members) := by
  rw [select, selectMembers]

lemma selectMembers_of_dropped {name : String} (h : resultName? ctx name = none) (v : Json)
    (members : List (String × Json)) :
    selectMembers ctx ((name, v) :: members) = selectMembers ctx members := by
  simp [selectMembers, h]

lemma selectMembers_of_kept {name name' : String} (h : resultName? ctx name = some name')
    (v : Json) (members : List (String × Json)) :
    selectMembers ctx ((name, v) :: members) =
      (name', select ctx v) :: selectMembers ctx members := by
  simp [selectMembers, h]

mutual

/-- Pruning selects if it has a result and no two fields of an object come to have one name. -/
lemma prune_of_settled (v : Json) (h : ∀ name ∈ v.names, Settled ctx name)
    (htidy : (select ctx v).Tidy) : prune ctx v = .ok (select ctx v) := by
  match v with
  | .null | .bool _ | .number _ | .string _ => simp only [prune, select]
  | .array items =>
    rw [select, Json.tidy_array_iff, List.forall_mem_map] at htidy
    rw [prune, pruneItems_of_settled items h htidy, select]
    rfl
  | .object members =>
    rw [select_object] at htidy
    rw [prune, pruneMembers_of_settled [] members h htidy, select_object]
    rfl

lemma pruneItems_of_settled (items : List Json)
    (h : ∀ name ∈ Json.namesOfItems items, Settled ctx name)
    (htidy : ∀ v ∈ items, (select ctx v).Tidy) :
    pruneItems ctx items = .ok (items.map (select ctx)) := by
  match items with
  | [] => rw [pruneItems, List.map_nil]
  | v :: items =>
    rw [Json.namesOfItems, List.forall_mem_append] at h
    rw [List.forall_mem_cons] at htidy
    rw [pruneItems, prune_of_settled v h.1 htidy.1, pruneItems_of_settled items h.2 htidy.2]
    rfl

lemma pruneMembers_of_settled (kept : Table Json) (members : List (String × Json))
    (h : ∀ name ∈ Json.namesOfMembers members, Settled ctx name)
    (htidy : (Json.object (kept ++ selectMembers ctx members)).Tidy) :
    pruneMembers ctx kept members = .ok (kept ++ selectMembers ctx members) := by
  match members with
  | [] => simp [pruneMembers, selectMembers]
  | (key, v) :: members =>
    rw [Json.namesOfMembers, List.forall_mem_cons, List.forall_mem_append] at h
    obtain ⟨hkey, hv, hmembers⟩ := h
    rw [pruneMembers, keptName_of_settled hkey]
    cases hname : resultName? ctx key with
    | none =>
      -- the value of a dropped field is pruned as well, but what comes of it is lost
      obtain ⟨v', hv⟩ := (exists_prune_iff v).2 hv
      rw [selectMembers_of_dropped hname] at htidy ⊢
      rw [hv]
      exact pruneMembers_of_settled kept members hmembers htidy
    | some key' =>
      rw [selectMembers_of_kept hname] at htidy ⊢
      obtain ⟨hkeys, hvalues⟩ := Json.tidy_object_iff.1 htidy
      have hv' := prune_of_settled v hv (hvalues (key', select ctx v) (by simp))
      have hnew : key' ∉ kept.keys := by
        rw [Table.keys_append, Table.keys_cons] at hkeys
        intro hmem
        exact (List.nodup_append.1 hkeys).2.2 key' hmem key' List.mem_cons_self rfl
      -- the name is new, so the field is written behind those that are kept already
      rw [List.append_cons] at htidy ⊢
      have hrest := pruneMembers_of_settled (kept ++ [(key', select ctx v)]) members hmembers htidy
      rw [hv', ← hrest, ← Table.insert_of_notMem hnew]
      rfl

end

mutual

/-- Nothing is selected away from a value without conditional names. -/
lemma select_eq_self (v : Json) (h : ∀ name ∈ v.names, Unconditional name) : select ctx v = v := by
  match v with
  | .null | .bool _ | .number _ | .string _ => simp only [select]
  | .array items => rw [select, map_select_eq_self items h]
  | .object members => rw [select_object, selectMembers_eq_self members h]

lemma map_select_eq_self (items : List Json)
    (h : ∀ name ∈ Json.namesOfItems items, Unconditional name) :
    items.map (select ctx) = items := by
  match items with
  | [] => rw [List.map_nil]
  | v :: items =>
    rw [Json.namesOfItems, List.forall_mem_append] at h
    rw [List.map_cons, select_eq_self v h.1, map_select_eq_self items h.2]

lemma selectMembers_eq_self (members : List (String × Json))
    (h : ∀ name ∈ Json.namesOfMembers members, Unconditional name) :
    selectMembers ctx members = members := by
  match members with
  | [] => rw [selectMembers, List.filterMap_nil]
  | (key, v) :: members =>
    rw [Json.namesOfMembers, List.forall_mem_cons, List.forall_mem_append] at h
    obtain ⟨hkey, hv, hmembers⟩ := h
    rw [selectMembers_of_kept (resultName?_of_unconditional hkey), select_eq_self v hv,
      selectMembers_eq_self members hmembers]

end

/-- A value that has been pruned is left alone. -/
lemma Pruned.prune_eq_self {v : Json} (h : Pruned v) : prune ctx v = .ok v := by
  have hself : select ctx v = v := select_eq_self v h.unconditional
  have hsettled : ∀ name ∈ v.names, Settled ctx name :=
    fun name hname => (h.unconditional name hname).settled
  have hprune := prune_of_settled v hsettled
  rw [hself] at hprune
  exact hprune h.tidy

/-- Nothing conditional is left in a pruned value, so pruning it again changes nothing, whatever the
context. Pruning fails just where a condition without a truth value stands, be it in a field that
is dropped. -/
theorem prune_idempotent (ctx : Context) (v : Json) :
    (∀ w, prune ctx v = .ok w →
      (∀ name ∈ w.names, Unconditional name) ∧ ∀ ctx', prune ctx' w = .ok w) ∧
    ((∃ e, prune ctx v = .error e) ↔ ∃ name ∈ v.names, ¬ Settled ctx name) := by
  constructor
  · intro w hw
    have hpruned := pruned_of_prune v hw
    exact ⟨hpruned.unconditional, fun ctx' => hpruned.prune_eq_self⟩
  · rw [exists_error_iff, exists_prune_iff]
    push Not
    rfl

/-- An instance where a bare name begins like a mark, and one where a field that is dropped holds
a condition that is a number. -/
theorem prune_idempotent_nested :
    let ctx : Context := ⟨4, "testdb", "user"⟩
    let v : Json := .object [("#\x7bif(true)\x7d#\x7bif(a",
      .array [.object [("#\x7bif(doc_id_counter == 5)\x7db", .null), ("c", .bool true)]])]
    let w : Json := .object [("#\x7bif(a", .array [.object [("c", .bool true)]])]
    let u : Json := .object [("#\x7bif(false)\x7da", .object [("#\x7bif(1)\x7db", .null)])]
    prune ctx v = .ok w ∧ (∀ name ∈ w.names, Unconditional name) ∧
      (∀ ctx', prune ctx' w = .ok w) ∧ ∃ e, prune ctx u = .error e := by
  intro ctx v w u
  have hw : prune ctx v = .ok w := by decide +kernel
  have hu : ∃ name ∈ u.names, ¬ Settled ctx name := by decide +kernel
  obtain ⟨hplain, hagain⟩ := (prune_idempotent ctx v).1 w hw
  exact ⟨hw, hplain, hagain, (prune_idempotent ctx u).2.2 hu⟩

/-- If every condition has a truth value, what is pruned are the fields whose conditions fail and
nothing else, and every field that is kept stays in its place; only where two fields of an object
come to have one name is the result another one. A value without conditions is left alone. -/
theorem prune_eq_select {v : Json} (hsettled : ∀ name ∈ v.names, Settled ctx name) :
    (prune ctx v = .ok (select ctx v) ↔ (select ctx v).Tidy) ∧
      ((∀ name ∈ v.names, Unconditional name) → select ctx v = v) := by
  constructor
  · constructor
    · exact fun h => (pruned_of_prune v h).tidy
    · exact prune_of_settled v hsettled
  · exact select_eq_self v

/-- An instance with conditions at several depths. -/
theorem prune_eq_select_nested :
    let ctx : Context := ⟨4, "testdb", "user"⟩
    let number (n : Int) : Json := .number (.whole n)
    let v : Json := .object [
      ("outer", .object [("#\x7bif(false)\x7dgone", number 1), ("inner", .object [
        ("#\x7bif(doc_id_counter % 2 == 0)\x7deven", .bool true),
        ("#\x7bif(doc_id_counter % 2 == 1)\x7dodd", .bool true)])]),
      ("#\x7bif(true)\x7dkept", .object [("#\x7bif(false)\x7ddeep", number 0), ("z", number 3)]),
      ("list", .array [.object [("#\x7bif(false)\x7da", number 1), ("b", number 2)]])]
    let w : Json := .object [
      ("outer", .object [("inner", .object [("even", .bool true)])]),
      ("kept", .object [("z", number 3)]),
      ("list", .array [.object [("b", number 2)]])]
    (∀ name ∈ v.names, Settled ctx name) ∧ w.Tidy ∧ prune ctx v = .ok w := by
  intro ctx number v w
  have hsettled : ∀ name ∈ v.names, Settled ctx name := by decide +kernel
  have htidy : w.Tidy := by simp [w, number]
  have hnames : v.names.map (resultName? ctx) = [some "outer", none, some "inner", some "even",
      none, some "kept", none, some "z", some "list", none, some "b"] := by decide +kernel
  have hselect : select ctx v = w := by
    simp [v, Json.names, Json.namesOfMembers, Json.namesOfItems] at hnames
    simp [v, w, number, select, hnames]
  have hprune := (prune_eq_select hsettled).1.2 (hselect ▸ htidy)
  exact ⟨hsettled, htidy, hselect ▸ hprune⟩

end Template

end CouchLoad
