import ContentPlatform.Observability.Logging

/-!
# What redaction hides

Two events are alike when they differ in what stands under sensitive keys only.  Redaction is to make
alike events equal.  It goes from dicts to dicts and takes lists as they are.
-/

set_option autoImplicit false

namespace ContentPlatform

variable {κ σ : Type} (str : κ → String)

/-! ## Alike events -/

def Secret (key : κ) (value : LogValue κ σ) : Prop :=
  isSensitive (str key) = true ∧ value.isNone = false

instance (key : κ) (value : LogValue κ σ) : Decidable (Secret str key value) :=
  inferInstanceAs (Decidable (_ ∧ _))

mutual
/-- The events differ in secrets only. -/
inductive Alike : LogValue κ σ → LogValue κ σ → Prop where
  | none : Alike .none .none
  | str (text : String) : Alike (.str text) (.str text)
  | scalar (value : σ) : Alike (.scalar value) (.scalar value)
  | list {items items' : List (LogValue κ σ)} : AlikeList items items' →
      Alike (.list items) (.list items')
  | dict {items items' : List (κ × LogValue κ σ)} : AlikeDict items items' →
      Alike (.dict items) (.dict items')

inductive AlikeList : List (LogValue κ σ) → List (LogValue κ σ) → Prop where
  | nil : AlikeList [] []
  | cons {value value' : LogValue κ σ} {rest rest' : List (LogValue κ σ)} :
      Alike value value' → AlikeList rest rest' → AlikeList (value :: rest) (value' :: rest')

inductive AlikeDict : List (κ × LogValue κ σ) → List (κ × LogValue κ σ) → Prop where
  | nil : AlikeDict [] []
  | cons {key : κ} {value value' : LogValue κ σ} {rest rest' : List (κ × LogValue κ σ)} :
      Alike value value' → AlikeDict rest rest' →
        AlikeDict ((key, value) :: rest) ((key, value') :: rest')
  | secret {key : κ} {value value' : LogValue κ σ} {rest rest' : List (κ × LogValue κ σ)} :
      Secret str key value → Secret str key value' → AlikeDict rest rest' →
        AlikeDict ((key, value) :: rest) ((key, value') :: rest')
end

inductive Bears : LogValue κ σ → Prop where
  | secret {items : List (κ × LogValue κ σ)} {item : κ × LogValue κ σ} : item ∈ items →
      Secret str item.1 item.2 → Bears (.dict items)
  | dict {items : List (κ × LogValue κ σ)} {item : κ × LogValue κ σ} : item ∈ items →
      Bears item.2 → Bears (.dict items)
  | list {items : List (LogValue κ σ)} {value : LogValue κ σ} : value ∈ items →
      Bears value → Bears (.list items)

/-- Somewhere outside the secrets there is a list that bears one. -/
inductive Exposed : LogValue κ σ → Prop where
  | dict {items : List (κ × LogValue κ σ)} {item : κ × LogValue κ σ} : item ∈ items →
      ¬Secret str item.1 item.2 → Exposed item.2 → Exposed (.dict items)
  | list {items : List (LogValue κ σ)} : Bears str (.list items) → Exposed (.list items)

theorem AlikeList.refl {items : List (LogValue κ σ)}
    (each : ∀ value ∈ items, Alike str value value) :
    AlikeList str items items := by
  induction items with
  | nil => exact .nil
  | cons value rest ih =>
      obtain ⟨first, others⟩ := List.forall_mem_cons.mp each
      exact .cons first (ih others)

theorem AlikeDict.refl {items : List (κ × LogValue κ σ)}
    (each : ∀ item ∈ items, Alike str item.2 item.2) : AlikeDict str items items := by
  induction items with
  | nil => exact .nil
  | cons item rest ih =>
      obtain ⟨first, others⟩ := List.forall_mem_cons.mp each
      exact .cons first (ih others)

theorem Alike.refl (value : LogValue κ σ) : Alike str value value := by
  induction value with
  | none => exact .none
  | str text => exact .str text
  | scalar value => exact .scalar value
  | list items ih => exact .list (AlikeList.refl str ih)
  | dict items ih => exact .dict (AlikeDict.refl str ih)

theorem AlikeList.replace {value value' : LogValue κ σ} (alike : Alike str value value')
    (front back : List (LogValue κ σ)) :
    AlikeList str (front ++ value :: back) (front ++ value' :: back) := by
  induction front with
  | nil => exact .cons alike (AlikeList.refl str fun value _ => Alike.refl str value)
  | cons first rest ih => exact .cons (Alike.refl str first) ih

theorem AlikeDict.replace {item item' : κ × LogValue κ σ} (alike : AlikeDict str [item] [item'])
    (front back : List (κ × LogValue κ σ)) :
    AlikeDict str (front ++ item :: back) (front ++ item' :: back) := by
  have same : AlikeDict str back back := AlikeDict.refl str fun item _ => Alike.refl str item.2
  induction front with
  | nil =>
      cases alike with
      | cons first _ => exact .cons first same
      | secret here there _ => exact .secret here there same
  | cons first rest ih => exact .cons (Alike.refl str first.2) ih

/-! ## Item by item -/

theorem AlikeList.map_eq {β : Type} {f : LogValue κ σ → β} {items items' : List (LogValue κ σ)}
    (each : ∀ value ∈ items, ∀ value', Alike str value value' → f value = f value')
    (alike : AlikeList str items items') : items.map f = items'.map f := by
  induction items generalizing items' with
  | nil => cases alike; rfl
  | cons value rest ih =>
      obtain ⟨first, others⟩ := List.forall_mem_cons.mp each
      cases alike with
      | cons head tail => rw [List.map_cons, List.map_cons, first _ head, ih others tail]

theorem AlikeDict.map_eq {β : Type} {f : κ × LogValue κ σ → β}
    {items items' : List (κ × LogValue κ σ)}
    (each : ∀ item ∈ items, ∀ value', Alike str item.2 value' ∨
      Secret str item.1 item.2 ∧ Secret str item.1 value' → f item = f (item.1, value'))
    (alike : AlikeDict str items items') : items.map f = items'.map f := by
  induction items generalizing items' with
  | nil => cases alike; rfl
  | cons item rest ih =>
      obtain ⟨first, others⟩ := List.forall_mem_cons.mp each
      cases alike with
      | cons head tail => rw [List.map_cons, List.map_cons, first _ (Or.inl head), ih others tail]
      | secret here there tail =>
          rw [List.map_cons, List.map_cons, first _ (Or.inr ⟨here, there⟩), ih others tail]

/-- Without a secret there is nothing to differ in. -/
theorem Alike.eq_of_not_bears {value value' : LogValue κ σ} (clean : ¬Bears str value)
    (alike : Alike str value value') : value = value' := by
  induction value generalizing value' with
  | none => cases alike; rfl
  | str text => cases alike; rfl
  | scalar value => cases alike; rfl
  | list items ih =>
      cases alike with
      | list pairs =>
          have same := AlikeList.map_eq (f := id) str
            (fun value member _ alike => ih value member (fun bears => clean (.list member bears))
              alike) pairs
          rw [List.map_id, List.map_id] at same
          rw [same]
  | dict items ih =>
      cases alike with
      | dict pairs =>
          have same : items.map id = _ := AlikeDict.map_eq str (fun item member value' differ => by
            rcases differ with alike | ⟨here, -⟩
            · have values := ih item member (fun bears => clean (.dict member bears)) alike
              exact Prod.ext rfl values
            · exact absurd (Bears.secret member here) clean) pairs
          rw [List.map_id, List.map_id] at same
          rw [same]

/-- A secret can be another one. -/
theorem Bears.differs {value : LogValue κ σ} (bears : Bears str value) :
    ∃ value', Alike str value value' ∧ value' ≠ value := by
  induction bears with
  | @secret items item member here =>
      obtain ⟨front, back, rfl⟩ := List.append_of_mem member
      have there : Secret str item.1 (.list [item.2]) := ⟨here.1, rfl⟩
      have other : item.2 ≠ .list [item.2] := by
        intro same
        have sizes := congrArg sizeOf same
        simp at sizes
        omega
      exact ⟨.dict (front ++ (item.1, .list [item.2]) :: back),
        .dict (AlikeDict.replace str (.secret here there .nil) front back), by
          intro same
          have items := List.append_cancel_left (LogValue.dict.inj same)
          have heads := (List.cons.inj items).1
          exact other (congrArg Prod.snd heads).symm⟩
  | @dict items item member _ ih =>
      obtain ⟨front, back, rfl⟩ := List.append_of_mem member
      obtain ⟨value', alike, other⟩ := ih
      exact ⟨.dict (front ++ (item.1, value') :: back),
        .dict (AlikeDict.replace str (.cons alike .nil) front back), by
          intro same
          have items := List.append_cancel_left (LogValue.dict.inj same)
          have heads := (List.cons.inj items).1
          exact other (congrArg Prod.snd heads)⟩
  | @list items value member _ ih =>
      obtain ⟨front, back, rfl⟩ := List.append_of_mem member
      obtain ⟨value', alike, other⟩ := ih
      exact ⟨.list (front ++ value' :: back), .list (AlikeList.replace str alike front back), by
          intro same
          have items := List.append_cancel_left (LogValue.list.inj same)
          exact other (List.cons.inj items).1⟩

/-! ## What redaction does -/

theorem redactItem_secret {item : κ × LogValue κ σ} (secret : Secret str item.1 item.2) :
    redactItem str item = (item.1, .str redactedText) := by
  rw [redactItem, secret.1, secret.2]
  rfl

theorem redactItem_plain {item : κ × LogValue κ σ} (plain : ¬Secret str item.1 item.2) :
    redactItem str item = (item.1, redactSecrets str item.2) := by
  rw [redactItem, if_neg]
  intro test
  rw [Bool.and_eq_true, Bool.not_eq_true'] at test
  exact plain test

/-- Outside the secrets the event stays as it is. -/
theorem alike_redactSecrets (value : LogValue κ σ) : Alike str value (redactSecrets str value) := by
  induction value with
  | none => exact .none
  | str text => exact .str text
  | scalar value => exact .scalar value
  | list items ih => exact Alike.refl str _
  | dict items ih =>
      rw [redactSecrets_dict]
      apply Alike.dict
      induction items with
      | nil => exact .nil
      | cons item rest restIh =>
          obtain ⟨first, others⟩ := List.forall_mem_cons.mp ih
          rw [List.map_cons]
          by_cases secret : Secret str item.1 item.2
          · rw [redactItem_secret str secret]
            exact .secret secret ⟨secret.1, rfl⟩ (restIh others)
          · rw [redactItem_plain str secret]
            exact .cons first (restIh others)

theorem Alike.isNone_eq {value value' : LogValue κ σ} (alike : Alike str value value') :
    value.isNone = value'.isNone := by
  cases alike <;> rfl

/-- Alike events are redacted to one event, as long as no list is exposed. -/
theorem Alike.redactSecrets_eq {value value' : LogValue κ σ} (covered : ¬Exposed str value)
    (alike : Alike str value value') : redactSecrets str value = redactSecrets str value' := by
  induction value generalizing value' with
  | none => cases alike; rfl
  | str text => cases alike; rfl
  | scalar value => cases alike; rfl
  | list items ih =>
      rw [Alike.eq_of_not_bears str (fun bears => covered (.list bears)) alike]
  | dict items ih =>
      cases alike with
      | dict pairs =>
          rw [redactSecrets_dict, redactSecrets_dict]
          congr 1
          apply AlikeDict.map_eq str _ pairs
          intro item member value' differ
          by_cases secret : Secret str item.1 item.2
          · have there : Secret str item.1 value' := by
              rcases differ with alike | ⟨-, there⟩
              · exact ⟨secret.1, alike.isNone_eq.symm.trans secret.2⟩
              · exact there
            rw [redactItem_secret str secret, redactItem_secret str there]
          · have alike := differ.resolve_right fun both => secret both.1
            have plain : ¬Secret str item.1 value' :=
              fun there => secret ⟨there.1, alike.isNone_eq.trans there.2⟩
            have values := ih item member (fun deep => covered (.dict member secret deep)) alike
            rw [redactItem_plain str secret, redactItem_plain str plain, values]

/-- What is exposed shows in the result. -/
theorem Exposed.leaks {value : LogValue κ σ} (exposed : Exposed str value) :
    ∃ value', Alike str value value' ∧ redactSecrets str value ≠ redactSecrets str value' := by
  induction exposed with
  | list bears =>
      obtain ⟨value', alike, other⟩ := bears.differs
      cases alike with
      | list pairs => exact ⟨_, .list pairs, other.symm⟩
  | @dict items item member plain _ ih =>
      obtain ⟨front, back, rfl⟩ := List.append_of_mem member
      obtain ⟨value', alike, other⟩ := ih
      have plain' : ¬Secret str item.1 value' :=
        fun there => plain ⟨there.1, alike.isNone_eq.trans there.2⟩
      have leaked : redactSecrets str (.dict (front ++ item :: back)) ≠
          redactSecrets str (.dict (front ++ (item.1, value') :: back)) := by
        intro same
        rw [redactSecrets_dict, redactSecrets_dict, List.map_append, List.map_append] at same
        have items := List.append_cancel_left (LogValue.dict.inj same)
        have heads := (List.cons.inj items).1
        rw [redactItem_plain str plain, redactItem_plain str plain'] at heads
        exact other (congrArg Prod.snd heads)
      exact ⟨_, .dict (AlikeDict.replace str (.cons alike .nil) front back), leaked⟩

/-! ## Completeness -/

/-- At one event, the result depends on no secret and differs from the event in secrets only. -/
structure RedactionComplete (event : LogValue κ σ) : Prop where
  hides : ∀ event', Alike str event event' → redactSecrets str event = redactSecrets str event'
  keeps : Alike str event (redactSecrets str event)

/-- Redaction is complete at the events that have no secret inside a list. -/
theorem redaction_complete_iff (event : LogValue κ σ) :
    RedactionComplete str event ↔ ¬Exposed str event := by
  constructor
  · intro complete exposed
    obtain ⟨event', alike, leaked⟩ := exposed.leaks
    exact leaked (complete.hides event' alike)
  · intro covered
    exact ⟨fun event' alike => alike.redactSecrets_eq str covered, alike_redactSecrets str event⟩

def listedPassword (text : String) : LogValue String ℤ :=
  .dict [("items", .list [.dict [("password", .str text)]])]

/-- A password within a list reaches the renderer. -/
theorem listed_password_written :
    ¬∀ event event' : LogValue String ℤ, Alike id event event' →
      redactSecrets id event = redactSecrets id event' := by
  intro every
  have alike : Alike id (listedPassword "hunter2") (listedPassword "letmein") :=
    .dict (.cons (.list (.cons (.dict (.secret (by decide) (by decide) .nil)) .nil)) .nil)
  have same := every _ _ alike
  have plain : ∀ text, redactSecrets id (listedPassword text) = listedPassword text := by
    intro text
    rfl
  rw [plain, plain] at same
  simp [listedPassword] at same

end ContentPlatform
