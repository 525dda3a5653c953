import Livecast.Proofs.Session.Notices
import Livecast.Proofs.WebSocket.Writing

/-!
# What the reading task hears

The stream gives items to the reading task until one of them ends it.  Each item means something to
an open session: media, an error that the server reports, or the end.

## Main Definitions

* `Inbound.ends`, `Inbound.payload?`, `Inbound.error?`, `Inbound.failure?` - what an item means
* `newsOf`, `news` - what the reading task reports, and what of that is among some events
* `Hearing` - what has been heard, and whether the reading task is at work

## Main Statements

* `Hearing.final` - what is not a message is the last that the reading task reports
* `filterMap_eq_of_met` - what an open session makes of the items is what they mean
-/

namespace Livecast

variable {L : Type}

/-! ## What an item means -/

namespace Inbound

/-- The reading task ends with it. -/
def ends : Inbound → Bool
  | .message (.close _) | .failed _ | .over => true
  | _ => false

/-- The media that it brings. -/
def payload? : Inbound → Option Bytes
  | .message (.binary data) => some data
  | _ => none

/-- The error that the server reports with it. -/
def error? : Inbound → Option String
  | .message (.text content) => reported? content
  | _ => none

/-- The failure that it is. -/
def failure? : Inbound → Option SessionFailure
  | .failed reason => some (.transport reason)
  | _ => none

end Inbound

/-- The connection reports the event. -/
def Event.isNews : Event L → Bool
  | .message _ | .errored _ | .closed => true
  | _ => false

/-- The event does not concern the stage of a session. -/
def Event.isIdle : Event L → Bool
  | .heartbeatTick | .sendSignal _ | .progress _ => true
  | _ => false

/-- What the connection reports about some items. -/
def newsOf (items : List Inbound) : List (Event L) := items.filterMap Inbound.event?

/-- What the connection reports among some events. -/
def news (events : List (Event L)) : List (Event L) :=
  events.filter Event.isNews

@[simp] theorem newsOf_append (items more : List Inbound) :
    (newsOf (items ++ more) : List (Event L)) = newsOf items ++ newsOf more :=
  List.filterMap_append

@[simp] theorem news_append (events more : List (Event L)) :
    news (events ++ more) = news events ++ news more :=
  List.filter_append ..

theorem Inbound.isNews_event {item : Inbound} {event : Event L}
    (h : item.event? = some event) : event.isNews = true := by
  rcases item with (_ | _ | _ | _ | _) | reason | _ <;>
    simp only [event?, Option.some.injEq, reduceCtorEq] at h <;> rw [← h] <;> rfl

/-- The reading task reports everything that it ends with. -/
theorem Inbound.event_of_ends {item : Inbound} (h : item.ends = true) :
    ∃ event : Event L, item.event? = some event ∧
      (event = .closed ∧ item.failure? = none ∨
        ∃ reason, event = .errored reason ∧ item.failure? = some (.transport reason)) := by
  rcases item with (_ | _ | _ | _ | code) | reason | _
  case message.close => exact ⟨_, rfl, .inl ⟨rfl, rfl⟩⟩
  case failed => exact ⟨_, rfl, .inr ⟨_, rfl, rfl⟩⟩
  all_goals first | exact ⟨_, rfl, .inl ⟨rfl, rfl⟩⟩ | simp [ends] at h

theorem Inbound.message_of_not_ends {item : Inbound} (h : item.ends = false)
    {event : Event L} (reported : item.event? = some event) :
    ∃ frame, event = .message frame := by
  rcases item with (_ | _ | _ | _ | _) | reason | _ <;> simp_all [ends, event?, eq_comm]

theorem Event.isNews_of_isIdle {event : Event L} (h : event.isIdle = true) :
    event.isNews = false := by
  cases event <;> simp_all [isIdle, isNews]

/-- **What has been heard**, and whether the reading task is at work: it ends with the first item
that says so. -/
inductive Hearing (items : List Inbound) : Bool → Prop where
  /-- It goes on. -/
  | listening (h : ∀ item ∈ items, item.ends = false) : Hearing items true
  /-- It has ended. -/
  | ended (front : List Inbound) (last : Inbound) (whole : items = front ++ [last])
      (before : ∀ item ∈ front, item.ends = false) (ends : last.ends = true) : Hearing items false

/-- As long as no item ends the reading task, it reports nothing but messages. -/
theorem message_of_mem_newsOf {items : List Inbound} (h : ∀ item ∈ items, item.ends = false)
    {event : Event L} (reported : event ∈ newsOf items) :
    ∃ frame, event = .message frame := by
  obtain ⟨item, among, what⟩ := List.mem_filterMap.mp reported
  exact Inbound.message_of_not_ends (h item among) what

/-- **What is not a message is the last that the reading task reports**: it has ended with the item
of which it is the report. -/
theorem Hearing.final {items : List Inbound} {reading : Bool} (h : Hearing items reading)
    {met rest : List (Event L)} {event : Event L}
    (reported : met ++ event :: rest = newsOf items) (ending : ∀ frame, event ≠ .message frame) :
    reading = false ∧ rest = [] ∧ ∃ last, items.getLast? = some last ∧
      (event = .closed ∧ last.failure? = none ∨
        ∃ reason, event = .errored reason ∧ last.failure? = some (.transport reason)) := by
  have among : event ∈ newsOf items := reported ▸ by simp
  cases h with
  | listening unending =>
      obtain ⟨frame, message⟩ := message_of_mem_newsOf unending among
      exact absurd message (ending frame)
  | ended front last whole before ends =>
      obtain ⟨event', what, kind⟩ := last.event_of_ends (L := L) ends
      have all : newsOf items = newsOf front ++ [event'] := by
        rw [whole, newsOf_append]
        simp [newsOf, what]
      have late : event ∉ newsOf front := fun earlier =>
        let ⟨frame, message⟩ := message_of_mem_newsOf before earlier
        ending frame message
      obtain rfl : event = event' := by simpa [all, late] using among
      exact ⟨rfl, eq_nil_of_concat_eq late (all.symm.trans reported.symm), last, by simp [whole],
        kind⟩

namespace Connection

variable {c next : Connection}

theorem write?_none {events : List (Event L)} (step : c.write? none = some (next, events)) :
    next.reading = c.reading ∧ events = [] := by
  cases write?_eq_some_iff.mp step <;> exact ⟨rfl, rfl⟩

theorem reading_take (c : Connection) (item : Inbound) :
    (c.take (L := L) item).1.reading = (c.reading && !item.ends) := by
  rcases item with (_ | _ | _ | _ | _) | reason | _ <;> simp [take, Inbound.ends]

end Connection

theorem Hearing.hear {items : List Inbound} (h : Hearing items true) (item : Inbound) :
    Hearing (items ++ [item]) (!item.ends) := by
  cases h with
  | listening unending =>
      cases ends : item.ends with
      | false =>
          refine .listening fun other among => ?_
          rcases List.mem_append.mp among with among | among
          · exact unending other among
          · exact List.mem_singleton.mp among ▸ ends
      | true => exact .ended items item rfl unending ends

/-! ## What an open session makes of the items -/

/-- What is read off the turns of a session that is open for the news is read off the news. -/
theorem filterMap_eq_news {α : Type} {ts : List (Turn L)}
    (met : ∀ t ∈ ts, t.event.isNews = true → t.before = .opened)
    {f : Turn L → Option α} {g : Event L → Option α}
    (opened : ∀ t, t.before = .opened → f t = g t.event)
    (others : ∀ t, t.event.isNews = false → f t = none) :
    ts.filterMap f = (news (ts.map Turn.event)).filterMap g := by
  induction ts with
  | nil => rfl
  | cons t rest ih =>
      obtain ⟨first, later⟩ := List.forall_mem_cons.mp met
      rw [filterMap_cons_toList, ih later, List.map_cons, news, news]
      cases isNews : t.event.isNews with
      | true =>
          rw [List.filter_cons_of_pos isNews, filterMap_cons_toList, opened t (first isNews)]
      | false =>
          rw [List.filter_cons_of_neg (by simp [isNews]), others t isNews]
          rfl

/-- **What an open session makes of the items** of the stream is what they mean. -/
theorem filterMap_eq_of_met {α : Type} {ts : List (Turn L)} {items : List Inbound}
    (all : news (ts.map Turn.event) = newsOf items)
    (met : ∀ t ∈ ts, t.event.isNews = true → t.before = .opened)
    {f : Turn L → Option α} {g : Event L → Option α} {h : Inbound → Option α}
    (opened : ∀ t, t.before = .opened → f t = g t.event)
    (others : ∀ t, t.event.isNews = false → f t = none)
    (meaning : ∀ item, item.event?.bind g = h item) :
    ts.filterMap f = items.filterMap h := by
  rw [filterMap_eq_news met opened others, all, newsOf, List.filterMap_filterMap]
  exact congrArg (items.filterMap ·) (funext meaning)

/-- The media in an event. -/
def Event.payload? : Event L → Option Bytes
  | .message (.binary data) => some data
  | _ => none

/-- The error that an event reports. -/
def Event.error? : Event L → Option String
  | .message (.text content) => reported? content
  | _ => none

end Livecast
