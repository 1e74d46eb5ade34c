import PeerDiscovery.Proofs.Overlay.Receiving

/-!
# Registering handlers

The handlers of a plan are registered one after the other, for any message identifiers and with
repetitions.  A registration for a membership message leaves the table of the overlay as it is;
any other replaces what was registered for its identifier before.  So it is the last registration
for an identifier that counts, however many there are.
-/

namespace PeerDiscovery

namespace MembershipMessage

/-- The identifiers that are taken by the membership messages. -/
def ids : List UInt8 := [245, 246, 249, 250]

theorem mem_ids_iff {messageId : UInt8} :
    messageId ∈ ids ↔ ∃ message : MembershipMessage, message.id = messageId := by
  constructor
  · intro taken
    simp only [ids, List.mem_cons, List.not_mem_nil, or_false] at taken
    rcases taken with rfl | rfl | rfl | rfl
    · exact ⟨.introductionResponse, rfl⟩
    · exact ⟨.introductionRequest, rfl⟩
    · exact ⟨.puncture, rfl⟩
    · exact ⟨.punctureRequest, rfl⟩
  · rintro ⟨message, rfl⟩
    cases message <;> decide

theorem ofId?_eq_none_iff {messageId : UInt8} : ofId? messageId = none ↔ messageId ∉ ids := by
  rw [mem_ids_iff, Option.eq_none_iff_forall_ne_some, not_exists]
  exact forall_congr' fun message => not_congr (ofId?_eq_some_iff.trans eq_comm)

end MembershipMessage

namespace Overlay

theorem withHandler_eq (overlay : Overlay) (messageId : UInt8) (handler : Handler) :
    overlay.withHandler messageId handler =
      { overlay with handlers := (overlay.withHandler messageId handler).handlers } := by
  unfold withHandler
  split <;> rfl

/-- Changes of the table of handlers make one such change. -/
theorem exists_foldl_eq {change : Overlay → UInt8 × Handler → Overlay}
    (keeps : ∀ (overlay : Overlay) (entry : UInt8 × Handler),
      ∃ table, change overlay entry = { overlay with handlers := table })
    (entries : List (UInt8 × Handler)) (overlay : Overlay) :
    ∃ table, entries.foldl change overlay = { overlay with handlers := table } := by
  induction entries generalizing overlay with
  | nil => exact ⟨overlay.handlers, rfl⟩
  | cons entry others ih =>
      obtain ⟨between, first⟩ := keeps overlay entry
      obtain ⟨table, rest⟩ := ih (change overlay entry)
      refine ⟨table, ?_⟩
      rw [List.foldl_cons, rest, first]

variable {overlay : Overlay} {messageId registered : UInt8} {handler : Handler}

theorem reaction?_of_free (free : messageId ∉ MembershipMessage.ids) :
    overlay.reaction? messageId = overlay.handlers[messageId]?.map .application := by
  simp only [reaction?, MembershipMessage.ofId?_eq_none_iff.2 free]

theorem handlers_withHandler_of_free (free : messageId ∉ MembershipMessage.ids) :
    (overlay.withHandler messageId handler).handlers =
      overlay.handlers.insert messageId handler := by
  simp [withHandler, MembershipMessage.ofId?_eq_none_iff.2 free]

theorem reaction?_withHandler_self (free : messageId ∉ MembershipMessage.ids) :
    (overlay.withHandler messageId handler).reaction? messageId =
      some (.application handler) := by
  rw [reaction?_of_free free, handlers_withHandler_of_free free,
    Std.ExtTreeMap.getElem?_insert_self]
  rfl

theorem handlers_withHandler_of_ne (apart : registered ≠ messageId) :
    (overlay.withHandler registered handler).handlers[messageId]? =
      overlay.handlers[messageId]? := by
  unfold withHandler
  split
  · rfl
  · rw [Std.ExtTreeMap.getElem?_insert, if_neg]
    exact fun same => apart (Std.LawfulEqOrd.eq_of_compare same)

theorem reaction?_withHandler_of_ne (apart : registered ≠ messageId) :
    (overlay.withHandler registered handler).reaction? messageId = overlay.reaction? messageId := by
  simp only [reaction?, handlers_withHandler_of_ne apart]

/-- Registrations for other identifiers do not matter. -/
theorem reaction?_foldl_of_ne {entries : List (UInt8 × Handler)}
    (apart : ∀ entry ∈ entries, entry.1 ≠ messageId) (overlay : Overlay) :
    (entries.foldl (fun overlay (registered, handler) => overlay.withHandler registered handler)
      overlay).reaction? messageId = overlay.reaction? messageId := by
  induction entries generalizing overlay with
  | nil => rfl
  | cons entry others ih =>
      rw [List.forall_mem_cons] at apart
      rw [List.foldl_cons, ih apart.2]
      exact reaction?_withHandler_of_ne apart.1

end Overlay

namespace OverlayPlan

variable {plan : OverlayPlan} {messageId : UInt8} {handler : Handler}

/-- The handlers of a plan make no other difference to its overlay. -/
theorem build_eq (plan : OverlayPlan) (key : PrivateKey) :
    plan.build key =
      { key
        settings := plan.settings
        handlers := (plan.build key).handlers
        globalTime := 0
        lan := .empty
        lastBootstrap := none } := by
  have keeps : ∀ (overlay : Overlay) (entry : UInt8 × Handler),
      ∃ table, overlay.withHandler entry.1 entry.2 = { overlay with handlers := table } :=
    fun overlay entry => ⟨_, overlay.withHandler_eq entry.1 entry.2⟩
  obtain ⟨table, same⟩ := Overlay.exists_foldl_eq keeps plan.handlers _
  unfold build
  rw [same]

/-- A handler is registered for a message identifier, and none after it. -/
def RegistersLast (plan : OverlayPlan) (messageId : UInt8) (handler : Handler) : Prop :=
  ∃ earlier later, plan.handlers = earlier ++ (messageId, handler) :: later ∧
    ∀ entry ∈ later, entry.1 ≠ messageId

/-- No handler is registered for a message identifier. -/
def Ignores (plan : OverlayPlan) (messageId : UInt8) : Prop :=
  ∀ entry ∈ plan.handlers, entry.1 ≠ messageId

theorem reaction?_build_of_registersLast (free : messageId ∉ MembershipMessage.ids)
    (last : plan.RegistersLast messageId handler) (key : PrivateKey) :
    (plan.build key).reaction? messageId = some (.application handler) := by
  obtain ⟨earlier, later, whole, apart⟩ := last
  unfold build
  rw [whole, List.foldl_append, List.foldl_cons, Overlay.reaction?_foldl_of_ne apart]
  exact Overlay.reaction?_withHandler_self free

theorem reaction?_build_of_ignores (free : messageId ∉ MembershipMessage.ids)
    (ignored : plan.Ignores messageId) (key : PrivateKey) :
    (plan.build key).reaction? messageId = none := by
  unfold build
  rw [Overlay.reaction?_foldl_of_ne ignored, Overlay.reaction?_of_free free]
  rfl

end OverlayPlan

end PeerDiscovery
