import UptimeGreeter.Proofs.Server.History

/-!
Which creation the service of a slot goes back to. A clone goes back to that of its origin, and
whatever is done to a service afterwards, it keeps all that it was created with but its source.
-/

namespace UptimeGreeter

def Birth.standing (birth : Birth) (object : Installation) : Standing :=
  ⟨birth.started, birth.startedAt, birth.absentProfile, object⟩

namespace History

/-- For each slot, the number of operations before the creation that its service goes back to. -/
def origins : History → List Nat
  | [] => []
  | .create _ :: past => origins past ++ [past.length]
  | .clone slot :: past => origins past ++ (origins past)[slot]?.toList
  | _ :: past => origins past

def Keeps (history : History) (slot origin : Nat) : Prop :=
  ∃ birth object, history.reverse[origin]? = some (.create birth) ∧
    (services history)[slot]? = some (birth.standing object)

theorem getElem?_reverse_cons {past : History} {operation earlier : Operation} {moment : Nat}
    (found : past.reverse[moment]? = some earlier) :
    (operation :: past).reverse[moment]? = some earlier := by
  rw [List.reverse_cons, List.getElem?_append_left (List.getElem?_eq_some_iff.mp found).1, found]

theorem getElem?_append_cases {α : Type} {front back : List α} {place : Nat} {item : α}
    (found : (front ++ back)[place]? = some item) :
    front[place]? = some item ∨ front.length ≤ place ∧ back[place - front.length]? = some item := by
  by_cases inside : place < front.length
  · rw [List.getElem?_append_left inside] at found
    exact .inl found
  · have beyond := Nat.le_of_not_lt inside
    rw [List.getElem?_append_right beyond] at found
    exact .inr ⟨beyond, found⟩

theorem getElem?_of_ofRun_take {operations : List (ClockReading × Operation)}
    {position moment : Nat} {operation : Operation}
    (found : (ofRun (operations.take position)).reverse[moment]? = some operation) :
    (operations[moment]?).map Prod.snd = some operation := by
  rw [ofRun, List.reverse_reverse, List.getElem?_map, List.getElem?_take] at found
  split_ifs at found with early
  · exact found
  · cases found

theorem length_origins (history : History) :
    (origins history).length = (services history).length := by
  induction history with
  | nil => rfl
  | cons operation past ih =>
      cases operation with
      | create birth => simp [origins, services, ih]
      | clone slot =>
          by_cases inside : slot < (services past).length
          · simp [origins, services, ih, inside]
          · simp [origins, services, ih, inside]
      | attach slot source =>
          have same : origins (.attach slot source :: past) = origins past := rfl
          rw [same, services, ih]
          split
          · rfl
          · rw [List.length_set]
      | _ => exact ih

namespace Keeps

variable {past : History} {operation : Operation} {slot origin : Nat}

theorem cons (kept : Keeps past slot origin)
    (stays : ∀ birth object, (services past)[slot]? = some (Birth.standing birth object) →
      ∃ next, (services (operation :: past))[slot]? = some (birth.standing next)) :
    Keeps (operation :: past) slot origin := by
  obtain ⟨birth, object, born, found⟩ := kept
  obtain ⟨next, stands⟩ := stays birth object found
  exact ⟨birth, next, getElem?_reverse_cons born, stands⟩

theorem cons_append (kept : Keeps past slot origin) {more : List Standing}
    (grown : services (operation :: past) = services past ++ more) :
    Keeps (operation :: past) slot origin := by
  refine kept.cons fun birth object found => ⟨object, ?_⟩
  rw [grown, List.getElem?_append_left (List.getElem?_eq_some_iff.mp found).1, found]

theorem create (birth : Birth) :
    Keeps (.create birth :: past) (services past).length past.length := by
  refine ⟨birth, ⟨past.length, birth.source⟩, ?_, ?_⟩
  · rw [List.reverse_cons, List.getElem?_append_right (by simp)]
    simp
  · rw [services, List.getElem?_append_right (Nat.le_refl _)]
    simp [Birth.standing]

theorem clone (kept : Keeps past slot origin) :
    Keeps (.clone slot :: past) (services past).length origin := by
  obtain ⟨birth, object, born, found⟩ := kept
  refine ⟨birth, object, getElem?_reverse_cons born, ?_⟩
  rw [services, found, Option.toList_some, List.getElem?_append_right (Nat.le_refl _)]
  simp

theorem attach (kept : Keeps past slot origin) (other : Nat) (source : ProfileSource) :
    Keeps (.attach other source :: past) slot origin := by
  refine kept.cons fun birth object found => ?_
  rw [services]
  split
  · exact ⟨object, found⟩
  · rename_i standing stands
    by_cases replaced : other = slot
    · subst replaced
      obtain rfl := Option.some.inj (stands.symm.trans found)
      exact ⟨_, List.getElem?_set_self (List.getElem?_eq_some_iff.mp found).1⟩
    · exact ⟨object, by rw [List.getElem?_set_ne replaced, found]⟩

end Keeps

theorem keeps_of_origin {history : History} {slot origin : Nat}
    (descends : (origins history)[slot]? = some origin) : Keeps history slot origin := by
  induction history generalizing slot with
  | nil => cases descends
  | cons operation past ih =>
      have places := length_origins past
      cases operation with
      | create birth =>
          rcases getElem?_append_cases descends with older | ⟨beyond, fresh⟩
          · exact (ih older).cons_append rfl
          · rw [List.getElem?_singleton] at fresh
            split_ifs at fresh with first
            obtain rfl := Option.some.inj fresh
            obtain rfl : slot = (services past).length := by omega
            exact .create birth
      | clone other =>
          rcases getElem?_append_cases descends with older | ⟨beyond, fresh⟩
          · exact (ih older).cons_append rfl
          · cases chosen : (origins past)[other]? with
            | none => simp [chosen] at fresh
            | some root =>
                rw [chosen, Option.toList_some, List.getElem?_singleton] at fresh
                split_ifs at fresh with first
                obtain rfl := Option.some.inj fresh
                obtain rfl : slot = (services past).length := by omega
                exact (ih chosen).clone
      | attach other source => exact (ih descends).attach other source
      | _ => exact (ih descends).cons fun _ object found => ⟨object, found⟩

theorem origins_getElem?_append {later past : History} {slot origin : Nat}
    (descends : (origins past)[slot]? = some origin) :
    (origins (later ++ past))[slot]? = some origin := by
  induction later with
  | nil => exact descends
  | cons operation later ih =>
      have inside := (List.getElem?_eq_some_iff.mp ih).1
      cases operation with
      | create birth => rw [List.cons_append, origins, List.getElem?_append_left inside, ih]
      | clone other => rw [List.cons_append, origins, List.getElem?_append_left inside, ih]
      | _ => exact ih

end History

end UptimeGreeter
