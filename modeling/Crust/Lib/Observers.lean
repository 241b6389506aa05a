import Mathlib.Data.List.Nodup
import Mathlib.Logic.Function.Basic
import Crust.Lib.Channel

/-! # Observers

Channels that are all told the same values. A sender whose receiver is gone is
forgotten when the next value is told. -/
namespace Observers

open Channel

variable {α : Type}

/-- A channel, named by the order of subscription. -/
structure Subscriber (α : Type) where
  name : Nat
  channel : Unbounded α
  deriving DecidableEq

def tell (subscribers : List (Subscriber α)) (a : α) : List (Subscriber α) :=
  subscribers.filterMap fun subscriber =>
    match subscriber.channel.send a with
    | (true, channel) => some { subscriber with channel }
    | (false, _) => none

/-- Apply `f` to the channel of one subscriber. -/
def on (subscribers : List (Subscriber α)) (name : Nat) (f : Unbounded α → Unbounded α) :
    List (Subscriber α) :=
  subscribers.map fun subscriber =>
    if subscriber.name = name then { subscriber with channel := f subscriber.channel }
    else subscriber

/-- The next subscription has the name `next`, and no two have the same one. -/
structure Numbered (subscribers : List (Subscriber α)) (next : Nat) : Prop where
  distinct : (subscribers.map Subscriber.name).Nodup
  below : ∀ subscriber ∈ subscribers, subscriber.name < next

theorem mem_tell {subscribers : List (Subscriber α)} {a : α} {name : Nat} {channel : Unbounded α} :
    ⟨name, channel⟩ ∈ tell subscribers a ↔
      ∃ old : Unbounded α, ⟨name, old⟩ ∈ subscribers ∧ old.listening = true ∧
        channel = { old with queue := old.queue ++ [a] } := by
  simp only [tell, List.mem_filterMap]
  constructor
  · rintro ⟨⟨_, old⟩, member, told⟩
    cases listening : old.listening <;> simp [Unbounded.send, listening] at told
    obtain ⟨rfl, rfl⟩ := told
    exact ⟨old, member, listening, by rw [listening]⟩
  · rintro ⟨old, member, listening, rfl⟩
    exact ⟨_, member, by simp [Unbounded.send, listening]⟩

theorem mem_on {subscribers : List (Subscriber α)} {name : Nat} {f : Unbounded α → Unbounded α}
    {other : Nat} {channel : Unbounded α} :
    ⟨other, channel⟩ ∈ on subscribers name f ↔
      ∃ old, ⟨other, old⟩ ∈ subscribers ∧ channel = if other = name then f old else old := by
  simp only [on, List.mem_map]
  constructor
  · rintro ⟨⟨_, old⟩, member, changed⟩
    split at changed
    case isTrue named =>
      cases changed
      exact ⟨old, member, (if_pos named).symm⟩
    case isFalse named =>
      cases changed
      exact ⟨channel, member, (if_neg named).symm⟩
  · rintro ⟨old, member, rfl⟩
    refine ⟨_, member, ?_⟩
    by_cases named : other = name <;> simp [named]

theorem names_on (subscribers : List (Subscriber α)) (name : Nat)
    (f : Unbounded α → Unbounded α) :
    (on subscribers name f).map Subscriber.name = subscribers.map Subscriber.name := by
  simp only [on, List.map_map]
  apply List.map_congr_left
  intro subscriber _
  simp only [Function.comp_apply]
  split <;> rfl

theorem names_tell (subscribers : List (Subscriber α)) (a : α) :
    ((tell subscribers a).map Subscriber.name).Sublist (subscribers.map Subscriber.name) := by
  induction subscribers with
  | nil => exact .slnil
  | cons subscriber rest ih =>
    cases listening : subscriber.channel.listening with
    | false => simpa [tell, Unbounded.send, listening] using ih.cons subscriber.name
    | true => simpa [tell, Unbounded.send, listening] using ih

namespace Numbered

variable {subscribers : List (Subscriber α)} {next : Nat}

theorem nil (next : Nat) : Numbered ([] : List (Subscriber α)) next :=
  ⟨List.nodup_nil, by simp⟩

theorem subscribe (numbered : Numbered subscribers next) (channel : Unbounded α) :
    Numbered (subscribers ++ [⟨next, channel⟩]) (next + 1) where
  distinct := by
    rw [List.map_append, List.nodup_append]
    refine ⟨numbered.distinct, by simp, ?_⟩
    intro name old other new
    obtain ⟨subscriber, member, rfl⟩ := List.mem_map.mp old
    have below := numbered.below subscriber member
    simp only [List.map_cons, List.map_nil, List.mem_singleton] at new
    omega
  below := by
    intro subscriber member
    rcases List.mem_append.mp member with member | new
    · have below := numbered.below subscriber member
      omega
    · rw [List.mem_singleton] at new
      subst new
      exact Nat.lt_succ_self next

theorem tell (numbered : Numbered subscribers next) (a : α) :
    Numbered (tell subscribers a) next where
  distinct := numbered.distinct.sublist (names_tell subscribers a)
  below := by
    rintro ⟨name, channel⟩ member
    obtain ⟨old, member, _⟩ := mem_tell.mp member
    exact numbered.below ⟨name, old⟩ member

theorem on (numbered : Numbered subscribers next) (name : Nat) (f : Unbounded α → Unbounded α) :
    Numbered (on subscribers name f) next where
  distinct := by
    rw [names_on]
    exact numbered.distinct
  below := by
    rintro ⟨other, channel⟩ member
    obtain ⟨old, member, _⟩ := mem_on.mp member
    exact numbered.below ⟨other, old⟩ member

theorem unique (numbered : Numbered subscribers next) {name : Nat} {a b : Unbounded α}
    (first : ⟨name, a⟩ ∈ subscribers) (second : ⟨name, b⟩ ∈ subscribers) : a = b := by
  have same : (⟨name, a⟩ : Subscriber α) = ⟨name, b⟩ :=
    List.inj_on_of_nodup_map numbered.distinct first second rfl
  cases same
  rfl

end Numbered

/-- A change of one channel leaves the others. -/
theorem mem_on_other {subscribers : List (Subscriber α)} {name other : Nat}
    (different : other ≠ name) (f : Unbounded α → Unbounded α) (channel : Unbounded α) :
    ⟨other, channel⟩ ∈ on subscribers name f ↔ ⟨other, channel⟩ ∈ subscribers := by
  rw [mem_on]
  simp [different]

/-! ## Who still listens -/

/-- The receiver of the subscriber is there. -/
def Live (subscribers : List (Subscriber α)) (name : Nat) : Prop :=
  ∃ channel : Unbounded α, ⟨name, channel⟩ ∈ subscribers ∧ channel.listening = true

namespace Live

variable {subscribers : List (Subscriber α)} {name : Nat}

/-- Nobody who listens is forgotten. -/
theorem tell (live : Live subscribers name) (a : α) : Live (tell subscribers a) name := by
  obtain ⟨channel, member, listening⟩ := live
  exact ⟨_, mem_tell.mpr ⟨channel, member, listening, rfl⟩, listening⟩

theorem subscribe (live : Live subscribers name) (subscriber : Subscriber α) :
    Live (subscribers ++ [subscriber]) name := by
  obtain ⟨channel, member, listening⟩ := live
  exact ⟨channel, List.mem_append_left _ member, listening⟩

theorem deliver (live : Live subscribers name) (other : Nat) :
    Live (on subscribers other (fun channel => channel.poll.2)) name := by
  obtain ⟨channel, member, listening⟩ := live
  refine ⟨_, mem_on.mpr ⟨channel, member, rfl⟩, ?_⟩
  split
  · exact channel.poll_listening.trans listening
  · exact listening

theorem others (live : Live subscribers name) {other : Nat} (different : name ≠ other)
    (f : Unbounded α → Unbounded α) : Live (on subscribers other f) name := by
  obtain ⟨channel, member, listening⟩ := live
  exact ⟨channel, (mem_on_other different f channel).mpr member, listening⟩

end Live

/-! ## The history of what was told -/

/-- Who still listens has heard, or has waiting, all that was told from its
subscription on. -/
def Follows (values : List α) (since : Nat → Nat) (heard : Nat → List α)
    (subscribers : List (Subscriber α)) : Prop :=
  ∀ name channel, ⟨name, channel⟩ ∈ subscribers → channel.listening = true →
    since name ≤ values.length ∧ heard name ++ channel.queue = values.drop (since name)

namespace Follows

variable {values : List α} {since : Nat → Nat} {heard : Nat → List α}
  {subscribers : List (Subscriber α)} {next : Nat}

theorem nil : Follows values since heard [] := by
  intro name channel member
  cases member

theorem tell (follows : Follows values since heard subscribers) (a : α) :
    Follows (values ++ [a]) since heard (tell subscribers a) := by
  intro name channel member _
  obtain ⟨old, told, listening, rfl⟩ := mem_tell.mp member
  obtain ⟨inside, complete⟩ := follows name old told listening
  refine ⟨Nat.le_trans inside (by simp), ?_⟩
  rw [List.drop_append_of_le_length inside, ← complete, List.append_assoc]

/-- A new subscriber is told the last value with its subscription. -/
theorem subscribe (follows : Follows values since heard subscribers)
    (numbered : Numbered subscribers next) {a : α} (last : values.getLast? = some a) :
    Follows values (Function.update since next (values.length - 1))
      (Function.update heard next [a]) (subscribers ++ [⟨next, .new⟩]) := by
  intro name channel member listening
  rcases List.mem_append.mp member with member | new
  · have older : name ≠ next := Nat.ne_of_lt (numbered.below ⟨name, channel⟩ member)
    rw [Function.update_of_ne older, Function.update_of_ne older]
    exact follows name channel member listening
  · rw [List.mem_singleton] at new
    cases new
    obtain ⟨before, rfl⟩ := List.getLast?_eq_some_iff.mp last
    simp [Unbounded.new]

theorem deliver (follows : Follows values since heard subscribers)
    (numbered : Numbered subscribers next) {name : Nat} {channel channel' : Unbounded α} {a : α}
    (member : ⟨name, channel⟩ ∈ subscribers) (polled : channel.poll = (.ready (some a), channel')) :
    Follows values since (Function.update heard name (heard name ++ [a]))
      (on subscribers name (fun channel => channel.poll.2)) := by
  intro other channel'' member' listening
  obtain ⟨old, oldMember, rfl⟩ := mem_on.mp member'
  by_cases same : other = name
  · subst same
    obtain rfl := numbered.unique oldMember member
    obtain ⟨queue, _, stays⟩ := Unbounded.poll_some polled
    simp only [if_true, polled] at listening ⊢
    obtain ⟨inside, complete⟩ := follows other old member (stays ▸ listening)
    refine ⟨inside, ?_⟩
    rw [Function.update_self, ← complete, queue, List.append_assoc]
    rfl
  · rw [if_neg same] at listening ⊢
    rw [Function.update_of_ne same]
    exact follows other old oldMember listening

theorem leave (follows : Follows values since heard subscribers) (name : Nat) :
    Follows values since heard (on subscribers name Unbounded.stopListening) := by
  intro other channel member listening
  obtain ⟨old, before, rfl⟩ := mem_on.mp member
  split at listening
  · cases listening
  · rename_i same
    rw [if_neg same]
    exact follows other old before listening

end Follows

end Observers
