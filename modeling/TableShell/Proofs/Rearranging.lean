import TableShell.Proofs.Queries

/-!
# Arguments in another order

The pairs of a statement become an entry, so their order is not to be seen in what the statement
does. When several of them are at fault, their order can decide which fault is reported, but never
of which kind it is. Only directives are taken in their order, and a target comes first.
-/

namespace TableShell

/-- The results are the same, or they are errors of the same kind. -/
inductive Alike {α : Type} : Except Error α → Except Error α → Prop
  | ok (a : α) : Alike (.ok a) (.ok a)
  | error {e e' : Error} (h : e.kind = e'.kind) : Alike (.error e) (.error e')

namespace Alike

variable {α β : Type} {x y : Except Error α}

protected theorem refl (x : Except Error α) : Alike x x := by
  cases x with
  | error e => exact .error rfl
  | ok a => exact .ok a

theorem bind (h : Alike x y) {f g : α → Except Error β} (hf : ∀ a, Alike (f a) (g a)) :
    Alike (x >>= f) (y >>= g) := by
  cases h with
  | ok a => exact hf a
  | error h => exact .error h

theorem map (h : Alike x y) (f : α → β) : Alike (x.map f) (y.map f) := by
  cases h with
  | ok a => exact .ok (f a)
  | error h => exact .error h

theorem of_kind {k : ErrorKind} (hx : ∀ e, x = .error e → e.kind = k)
    (hy : ∀ e, y = .error e → e.kind = k) (h : ∀ a, x = .ok a ↔ y = .ok a) : Alike x y := by
  cases x with
  | ok a =>
    rw [(h a).mp rfl]
    exact .ok a
  | error e =>
    cases y with
    | ok b => cases (h b).mpr rfl
    | error e' => exact .error ((hx e rfl).trans (hy e' rfl).symm)

end Alike

variable {S : Schema} {r : Registry} {pairs pairs' : List (String × String)}

theorem Entry.alike_ofPairs (h : pairs.Perm pairs') : Alike (ofPairs pairs) (ofPairs pairs') := by
  apply Alike.of_kind (fun _ => kind_of_ofPairs_error) (fun _ => kind_of_ofPairs_error)
  intro entry
  rw [ofPairs_eq_ok_iff, ofPairs_eq_ok_iff, ← (h.map Prod.fst).nodup_iff]
  apply and_congr_right
  intro hp
  have hp' : (pairs'.map Prod.fst).Nodup := (h.map Prod.fst).nodup_iff.mp hp
  rw [ofList_eq_of_mem_iff hp hp' fun _ => h.mem_iff]

namespace Schema

theorem mapM_convertField_perm (h : pairs.Perm pairs') (hp : (pairs.map Prod.fst).Nodup) {row : Row}
    (hrow : (pairs.mapM S.convertField).map (Std.ExtTreeMap.ofList ·) = .ok row) :
    (pairs'.mapM S.convertField).map (Std.ExtTreeMap.ofList ·) = .ok row := by
  obtain ⟨values, hvalues, rfl⟩ := map_eq_ok_iff.mp hrow
  have hall : ∀ p ∈ pairs', ∃ value, S.convertField p = .ok value := by
    intro p hmem
    exact exists_mapM_eq_ok_iff.mp ⟨values, hvalues⟩ p (h.mem_iff.mpr hmem)
  obtain ⟨values', hvalues'⟩ := exists_mapM_eq_ok_iff.mpr hall
  have hnodup : (values.map Prod.fst).Nodup := by rwa [← map_fst_of_mapM_convertField hvalues]
  have hnodup' : (values'.map Prod.fst).Nodup := by
    rwa [← map_fst_of_mapM_convertField hvalues', ← (h.map Prod.fst).nodup_iff]
  refine map_eq_ok_iff.mpr ⟨values', hvalues', ofList_eq_of_mem_iff hnodup' hnodup fun value => ?_⟩
  rw [mem_iff_of_mapM_eq_ok hvalues, mem_iff_of_mapM_eq_ok hvalues']
  simp only [h.mem_iff]

theorem alike_convertEntry {entry : Entry} (h : pairs.Perm entry.toList) :
    Alike (S.convertEntry entry) ((pairs.mapM S.convertField).map (Std.ExtTreeMap.ofList ·)) := by
  have hkind (fields : List (String × String)) (e : Error)
      (he : (fields.mapM S.convertField).map (Std.ExtTreeMap.ofList ·) = .error e) :
      e.kind = .entryInvalid := by
    obtain ⟨_, field, _, -, -, hfield⟩ := mapM_eq_error_iff.mp (map_eq_error_iff.mp he)
    exact kind_of_convertField_error hfield
  have hkeys : (entry.toList.map Prod.fst).Nodup := by
    rw [Std.ExtTreeMap.map_fst_toList_eq_keys]
    exact entry.nodup_keys
  have hp : (pairs.map Prod.fst).Nodup := (h.map Prod.fst).nodup_iff.mpr hkeys
  apply Alike.of_kind (hkind entry.toList) (hkind pairs)
  intro row
  exact ⟨mapM_convertField_perm h.symm hkeys, mapM_convertField_perm h hp⟩

end Schema

namespace Request

theorem alike_ofAdd (h : pairs.Perm pairs') : Alike (ofAdd S pairs) (ofAdd S pairs') :=
  (Entry.alike_ofPairs h).bind fun _ => .refl _

theorem alike_ofModify (p : String × String) (h : pairs.Perm pairs') :
    Alike (ofModify S (p :: pairs)) (ofModify S (p :: pairs')) := by
  unfold ofModify
  dsimp only
  rw [h.any_eq]
  split_ifs
  · exact .refl _
  · exact .refl _
  · exact .refl _
  · exact (Entry.alike_ofPairs h).bind fun _ => .refl _

end Request

theorem Query.alike_ofPairs (h : pairs.Perm pairs') (hd : directives pairs = directives pairs') :
    Alike (ofPairs S pairs) (ofPairs S pairs') := by
  have hsort : (pairs.filter (isDirective ·.1)).mapM (sortKey S) =
      (pairs'.filter (isDirective ·.1)).mapM (sortKey S) := congrArg _ hd
  unfold ofPairs
  rw [hsort]
  apply (Alike.refl _).bind
  intro sort
  exact (Entry.alike_ofPairs (h.filter _)).bind fun _ => .refl _

namespace Session

variable {db : Session} {a : Action} {args args' : List Argument}

/-- Both succeed with the same outcome and leave the same session, or both fail with errors of the
same kind and leave the session as it was. -/
def Concur (db : Session) (x y : Except Error Outcome × Session) : Prop :=
  (∃ o db', x = (.ok o, db') ∧ y = (.ok o, db')) ∨
    ∃ e e', x = (.error e, db) ∧ y = (.error e', db) ∧ e.kind = e'.kind

theorem concur_handle (h : Alike (Request.ofAction db.schema db.registry args a)
    (Request.ofAction db.schema db.registry args' a)) :
    db.Concur (db.handle a args) (db.handle a args') := by
  unfold handle
  generalize Request.ofAction db.schema db.registry args a = x at h ⊢
  generalize Request.ofAction db.schema db.registry args' a = y at h ⊢
  cases h with
  | error h => exact Or.inr ⟨_, _, rfl, rfl, h⟩
  | ok q =>
    dsimp only
    cases ho : (q.perform db.store).1 with
    | error e =>
      rw [Request.perform_snd_of_error ho]
      exact Or.inr ⟨e, e, rfl, rfl, rfl⟩
    | ok o => exact Or.inl ⟨o, _, rfl, rfl⟩

/-- In every state that a session reaches, pairs in another order have the same effect and the same
answer, or they are refused for the same kind of reason and have no effect. For a modification the
target has to stay in front, for a list the directives in their order. Nor does it matter in which
order the fields of an entry are converted. -/
theorem concur_perm (S : Schema) (r : Registry) (lines : List String)
    (pairs pairs' : List (String × String)) (h : pairs.Perm pairs') :
    let db := (run execute (start S r) lines).2
    let handle (a : Action) (pairs : List (String × String)) :=
      db.handle a (pairs.map fun p => .pair p.1 p.2)
    db.Concur (handle .add pairs) (handle .add pairs') ∧
      (pairs.head? = pairs'.head? → db.Concur (handle .modify pairs) (handle .modify pairs')) ∧
      (Query.directives pairs = Query.directives pairs' →
        db.Concur (handle .list pairs) (handle .list pairs')) ∧
      ∀ (entry : Entry) (fields : List (String × String)), fields.Perm entry.toList →
        Alike (S.convertEntry entry)
          ((fields.mapM S.convertField).map (Std.ExtTreeMap.ofList ·)) := by
  intro db handle
  refine ⟨concur_handle ?_, fun hhead => concur_handle ?_, fun hd => concur_handle ?_,
    fun entry fields => Schema.alike_convertEntry⟩
  · rw [Request.ofAction_add_pairs, Request.ofAction_add_pairs]
    exact Request.alike_ofAdd h
  · rw [Request.ofAction_modify_pairs, Request.ofAction_modify_pairs]
    cases pairs with
    | nil =>
      rw [h.nil_eq]
      exact .refl _
    | cons p updates =>
      obtain ⟨updates', rfl⟩ := List.head?_eq_some_iff.mp hhead.symm
      exact Request.alike_ofModify p h.cons_inv
  · rw [Request.ofAction_list_pairs, Request.ofAction_list_pairs]
    exact (Query.alike_ofPairs h hd).map _

/-- Two keys come twice. Which of them is reported depends on the order, and it is a conflict both
ways. -/
theorem concur_perm_conflicts :
    let pairs := [("id", "1"), ("$sort_asc", "day"), ("name", "Ada"), ("id", "2"), ("name", "Bob")]
    let pairs' := [("id", "1"), ("name", "Bob"), ("name", "Ada"), ("$sort_asc", "day"), ("id", "2")]
    let db := (run execute (start .staff .builtin) ["add id 1 name Ada day 1815-12-10"]).2
    let handle (a : Action) (pairs : List (String × String)) :=
      db.handle a (pairs.map fun p => .pair p.1 p.2)
    pairs.Perm pairs' ∧ pairs.head? = pairs'.head? ∧
      Query.directives pairs = Query.directives pairs' ∧
      (handle .list pairs).1 = .error (.argumentConflict "id") ∧
      (handle .list pairs').1 = .error (.argumentConflict "name") ∧
      db.Concur (handle .add pairs) (handle .add pairs') ∧
      db.Concur (handle .modify pairs) (handle .modify pairs') ∧
      db.Concur (handle .list pairs) (handle .list pairs') := by
  intro pairs pairs' db handle
  have hperm : pairs.Perm pairs' := by decide
  have hhead : pairs.head? = pairs'.head? := rfl
  have hd : Query.directives pairs = Query.directives pairs' := by decide
  obtain ⟨hadd, hmodify, hlist, -⟩ :=
    concur_perm .staff .builtin ["add id 1 name Ada day 1815-12-10"] pairs pairs' hperm
  exact ⟨hperm, hhead, hd, by decide +kernel, by decide +kernel, hadd, hmodify hhead, hlist hd⟩

end Session

end TableShell
