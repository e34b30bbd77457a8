import Mathlib.Algebra.Order.Ring.Unbundled.Rat
import Mathlib.Algebra.Field.Rat
import PorcelainMonitor.Modules.Rounds

/-!
# The panel of the latest readings

`app.js` registers listeners with the WebSocket client.  A message that the client can
parse goes to the listeners of its type.  Readings go to a panel that holds ten of them,
and alerts are shown for some seconds.

A reading is written as the `innerHTML` of its item, so that the id in a message can bring
elements with it, also one of the class `no-data` that the next reading removes.  What the
parser makes of an item is left open (`Parser`); code that runs from an item, such as a
handler in an attribute, is not modelled.

As long as the ids are plain texts, the panel holds the latest readings that the listeners
could write (`panel_latest`).  The messages of the server do not have the fields that the
listeners read, so that the panel shows the same depth and the same amplitude for all of
them (`pushed_readings_blank`).
-/

namespace PorcelainMonitor.Frontend

open Modules (Taken alertJson)

/-! ## Values -/

/-- What `JSON.parse` has made, or `undefined`. -/
abbrev JsValue (R : Type) := Option (Json R)

/-- An exception of the language, such as a `TypeError`. -/
abbrev Thrown := Unit

/-- A text of which the parser of `innerHTML` makes no element. -/
abbrev PlainText := { text : String // '<' ∉ text.toList }

/-- How the language converts values.  An array or an object is asked for its text or its
number by a method, which throws if the value has a field of that name instead. -/
structure Language (R : Type) where
  toFixed : R → Nat → PlainText
  /-- The text of `undefined`, `null`, a truth value or a number. -/
  plain : JsValue R → PlainText
  /-- The text that the bytes encode. -/
  text : List UInt8 → String
  /-- The text of an array or an object. -/
  composite : Json R → Except Thrown String
  /-- The number that a text denotes, unless it is `NaN`. -/
  textNumber : List UInt8 → Option R
  /-- The number of an array or an object, unless it is `NaN`. -/
  compositeNumber : Json R → Except Thrown (Option R)

section Values

variable {R : Type} [Field R] [DecidableEq R]

def truthy : JsValue R → Bool
  | none => false
  | some .null => false
  | some (.bool b) => b
  | some (.int n) => n ≠ 0
  | some (.float x) => x ≠ 0
  | some (.str bytes) => bytes ≠ []
  | some (.arr _) => true
  | some (.obj _) => true

/-- `v || w` -/
def orElse (v w : JsValue R) : JsValue R := if truthy v then v else w

/-- `v.key`.  Of several fields of that name the last one counts. -/
def getField (v : JsValue R) (key : String) : Except Thrown (JsValue R) :=
  match v with
  | none => .error ()
  | some .null => .error ()
  | some (.obj fields) => .ok (fields.reverse.lookup key.toUTF8.data.toList)
  | some _ => .ok none

namespace Language

variable (lang : Language R)

/-- `v.toFixed(digits)`, which only numbers have. -/
def callToFixed (v : JsValue R) (digits : Nat) : Except Thrown PlainText :=
  match v with
  | some (.int n) => .ok (lang.toFixed n digits)
  | some (.float x) => .ok (lang.toFixed x digits)
  | _ => .error ()

omit [Field R] [DecidableEq R] in
/-- The text of a value in a template. -/
def template : JsValue R → Except Thrown String
  | some (.str bytes) => .ok (lang.text bytes)
  | some (.arr items) => lang.composite (.arr items)
  | some (.obj fields) => lang.composite (.obj fields)
  | v => .ok (lang.plain v).val

/-- The number that an arithmetic operator takes, unless it is `NaN`. -/
def number : JsValue R → Except Thrown (Option R)
  | none => .ok none
  | some .null => .ok (some 0)
  | some (.bool b) => .ok (some (if b then 1 else 0))
  | some (.int n) => .ok (some n)
  | some (.float x) => .ok (some x)
  | some (.str bytes) => .ok (lang.textNumber bytes)
  | some v => lang.compositeNumber v

def toFixedNaN (x : Option R) (digits : Nat) : PlainText :=
  match x with
  | some x => lang.toFixed x digits
  | none => ⟨"NaN", by decide⟩

end Language

end Values

/-! ## The page -/

/-- What `addRealtimeData` writes into an item. -/
def itemHtml (type value time : String) : String :=
  "\n            <span class=\"data-type\">" ++ type ++
    ":</span>\n            <span class=\"data-value\">" ++ value ++
    "</span>\n            <div class=\"data-time\">" ++ time ++ "</div>\n        "

/-- The parser of `innerHTML`, and what it makes of a text. -/
structure Parser (Html : Type) where
  parse : String → Html
  /-- Without its first element of class `no-data`, if there is one. -/
  removeNoData : Html → Option Html
  plain : ∀ type value time : PlainText,
    removeNoData (parse (itemHtml type.val value.val time.val)) = none

inductive Node (Html : Type) where
  | whitespace
  /-- The paragraph of class `no-data`. -/
  | noData
  | item (html : Html)
deriving DecidableEq, Repr

namespace Node

variable {Html : Type}

def isElement : Node Html → Bool
  | .whitespace => false
  | _ => true

def isItem : Node Html → Bool
  | .item _ => true
  | _ => false

def isNoData : Node Html → Bool
  | .noData => true
  | _ => false

end Node

structure Toast where
  message : String
  type : String
deriving DecidableEq, Repr

/-- Requests whose answers come later. -/
inductive Refresh where
  | updateAlertCount
  | loadAlerts
deriving DecidableEq, Repr

structure RealtimePage (Html : Type) where
  connected : Bool
  /-- The id of `currentPorcelain`. -/
  currentPorcelain : Option Int
  /-- The child nodes of the panel. -/
  realtimeData : List (Node Html)
  /-- All that have been shown. -/
  toasts : List Toast
  refreshes : List Refresh
deriving DecidableEq, Repr

variable {Html : Type}

/-- `while (container.children.length > 10) container.removeChild(container.lastChild)` -/
def trim (nodes : List (Node Html)) : List (Node Html) :=
  if 10 < nodes.countP Node.isElement then trim nodes.dropLast else nodes
termination_by nodes.length
decreasing_by
  have hle := List.countP_le_length (p := Node.isElement) (l := nodes)
  rw [List.length_dropLast]
  omega

/-- Without what `querySelector('.no-data')` finds: the first of all elements, also of those
inside the items. -/
def Parser.removeFirst (parser : Parser Html) : List (Node Html) → List (Node Html)
  | [] => []
  | .whitespace :: nodes => .whitespace :: parser.removeFirst nodes
  | .noData :: nodes => nodes
  | .item html :: nodes =>
      match parser.removeNoData html with
      | some html => .item html :: nodes
      | none => .item html :: parser.removeFirst nodes

namespace RealtimePage

/-- The page as `index.html` has it. -/
def fresh : RealtimePage Html where
  connected := false
  currentPorcelain := none
  realtimeData := [.whitespace, .noData, .whitespace]
  toasts := []
  refreshes := []

def addRealtimeData (parser : Parser Html) (type value time : String) (page : RealtimePage Html) :
    RealtimePage Html :=
  { page with
    realtimeData := trim (.item (parser.parse (itemHtml type value time)) ::
      parser.removeFirst page.realtimeData) }

def showToast (message type : String) (page : RealtimePage Html) : RealtimePage Html :=
  { page with toasts := page.toasts ++ [⟨message, type⟩] }

def refresh (r : Refresh) (page : RealtimePage Html) : RealtimePage Html :=
  { page with refreshes := page.refreshes ++ [r] }

/-! ## The listeners -/

section Listeners

variable {R : Type} [Field R] [DecidableEq R] (parser : Parser Html) (lang : Language R)

/-- `===` of the id of an object and a value. -/
def sameId : Option Int → JsValue R → Bool
  | some id, some (.int n) => id = n
  | some id, some (.float x) => id = x
  | _, _ => false

/-- The text of a laser reading. -/
def laserValue (porcelainId depth : String) : String :=
  "瓷器#" ++ porcelainId ++ ": 深度 " ++ depth ++ "μm"

/-- The text of a vibration reading. -/
def vibrationValue (porcelainId rms : String) : String :=
  "瓷器#" ++ porcelainId ++ ": RMS " ++ rms ++ "nm/s²"

def handleLaserData (data : JsValue R) (time : String) (page : RealtimePage Html) :
    Except Thrown (RealtimePage Html) := do
  let porcelainId ← getField data "porcelain_id"
  let id ← lang.template porcelainId
  let maxDepth ← getField data "max_depth"
  let depth ← lang.callToFixed (orElse maxDepth (some (.int 0))) 1
  let page := page.addRealtimeData parser "激光扫描" (laserValue id depth.val) time
  return if sameId page.currentPorcelain porcelainId then page.refresh .updateAlertCount else page

def handleVibrationData (data : JsValue R) (time : String) (page : RealtimePage Html) :
    Except Thrown (RealtimePage Html) := do
  let id ← lang.template (← getField data "porcelain_id")
  let rmsAmplitude ← lang.number (← getField data "rms_amplitude")
  let rms := lang.toFixedNaN (rmsAmplitude.map (· * 10 ^ 9)) 2
  return page.addRealtimeData parser "振动监测" (vibrationValue id rms.val) time

def handleAlert (data : JsValue R) (page : RealtimePage Html) :
    Except Thrown (RealtimePage Html) := do
  let message ← getField data "message"
  let text ← lang.template (orElse message (some (.text "新的告警")))
  let page := page.showToast ("告警: " ++ text) "error"
  return (page.refresh .updateAlertCount).refresh .loadAlerts

inductive Listener where
  | connected
  | disconnected
  | laserData
  | vibrationData
  | alert

def Listener.call (data : JsValue R) (time : String) (page : RealtimePage Html) :
    Listener → Except Thrown (RealtimePage Html)
  | .connected => .ok ({ page with connected := true }.showToast "实时数据连接已建立" "success")
  | .disconnected => .ok { page with connected := false }
  | .laserData => page.handleLaserData parser lang data time
  | .vibrationData => page.handleVibrationData parser lang data time
  | .alert => page.handleAlert lang data

/-- What `initWebSocket` registers. -/
def listeners : List (String × Listener) := [
  ("connected", .connected),
  ("disconnected", .disconnected),
  ("laser_data", .laserData),
  ("vibration_data", .vibrationData),
  ("alert", .alert)]

/-- A listener that throws has done nothing before. -/
def emit (event : String) (data : JsValue R) (time : String) (page : RealtimePage Html) :
    RealtimePage Html :=
  (listeners.filter fun entry => entry.1 = event).foldl
    (fun page entry =>
      match entry.2.call parser lang data time page with
      | .ok page => page
      | .error _ => page)
    page

/-- The types that have an event of their own. -/
def messageTypes : List String := ["laser_data", "vibration_data", "alert", "heartbeat", "stats"]

/-- `data.type || data.message_type` -/
def messageType (data : JsValue R) : Except Thrown (JsValue R) := do
  let type ← getField data "type"
  if truthy type then return type else getField data "message_type"

/-- The event for a message, and what its listeners get. -/
def messageEvent (data : JsValue R) : Except Thrown (String × JsValue R) := do
  let type ← messageType data
  match messageTypes.find? fun name =>
    match type with
    | some (.str bytes) => name.toUTF8.data.toList = bytes
    | _ => false with
  | some name => return (name, ← getField data "data")
  | none => return ("message", data)

/-- An exception ends in the `catch` of `onmessage`. -/
def handleMessage (data : JsValue R) (time : String) (page : RealtimePage Html) :
    RealtimePage Html :=
  match messageEvent data with
  | .ok (event, value) => page.emit parser lang event value time
  | .error _ => page

end Listeners

end RealtimePage

/-- What happens to the page. -/
inductive PanelEvent (R : Type) where
  | opened
  | closed
  /-- What the text of a message parses to, if it does. -/
  | message (data : Option (Json R)) (time : PlainText)
  | select (porcelainId : Int)

/-- The text of the id in what a listener gets, if it has one, makes no element. -/
def PlainIds {R : Type} (lang : Language R) (data : JsValue R) : Prop :=
  ∀ porcelainId id, getField data "porcelain_id" = .ok porcelainId →
    lang.template porcelainId = .ok id → '<' ∉ id.toList

/-- A message whose `data` has no markup in its id. -/
def PanelEvent.Plain {R : Type} (lang : Language R) : PanelEvent R → Prop
  | .message (some j) _ => ∀ data, getField (some j) "data" = .ok data → PlainIds lang data
  | _ => True

namespace RealtimePage

variable {R : Type} [Field R] [DecidableEq R] (parser : Parser Html) (lang : Language R)

def react (page : RealtimePage Html) : PanelEvent R → RealtimePage Html
  | .opened => page.emit parser lang "connected" none ""
  | .closed => page.emit parser lang "disconnected" none ""
  | .message (some data) time => page.handleMessage parser lang (some data) time.val
  | .message none _ => page
  | .select porcelainId => { page with currentPorcelain := some porcelainId }

/-! ## What an event changes -/

variable {parser lang}

omit [Field R] [DecidableEq R] in
/-- No event has two listeners. -/
theorem listeners_filter (event : String) :
    (listeners.filter fun entry => entry.1 = event) = [] ∨
      ∃ l, (listeners.filter fun entry => entry.1 = event) = [(event, l)] := by
  have hnodup : (listeners.map Prod.fst).Nodup := by decide
  generalize listeners = entries at hnodup ⊢
  induction entries with
  | nil => exact .inl rfl
  | cons entry entries ih =>
      rw [List.map_cons, List.nodup_cons] at hnodup
      rw [List.filter_cons]
      split
      · next h =>
          have hname : entry.1 = event := of_decide_eq_true h
          have hrest : (entries.filter fun entry => entry.1 = event) = [] :=
            List.filter_eq_nil_iff.mpr fun other hother hsame => hnodup.1 (by
              rw [hname, ← of_decide_eq_true hsame]
              exact List.mem_map_of_mem hother)
          exact .inr ⟨entry.2, by rw [hrest, ← hname]⟩
      · exact ih hnodup.2

theorem plain_append {s t : String} (hs : '<' ∉ s.toList) (ht : '<' ∉ t.toList) :
    '<' ∉ (s ++ t).toList := by
  rw [String.toList_append, List.mem_append]
  exact not_or.mpr ⟨hs, ht⟩

theorem plain_laserValue {id depth : String} (hid : '<' ∉ id.toList)
    (hdepth : '<' ∉ depth.toList) : '<' ∉ (laserValue id depth).toList :=
  plain_append (plain_append (plain_append (plain_append (by decide) hid) (by decide)) hdepth)
    (by decide)

theorem plain_vibrationValue {id rms : String} (hid : '<' ∉ id.toList)
    (hrms : '<' ∉ rms.toList) : '<' ∉ (vibrationValue id rms).toList :=
  plain_append (plain_append (plain_append (plain_append (by decide) hid) (by decide)) hrms)
    (by decide)

variable (parser) in
/-- The item that an event adds to the panel, and the toasts that it shows. -/
structure Shows (react : RealtimePage Html → RealtimePage Html)
    (item : Option (PlainText × PlainText × PlainText)) (toasts : List Toast) : Prop where
  realtimeData : ∀ page, (react page).realtimeData =
    match item with
    | none => page.realtimeData
    | some (type, value, time) =>
        (page.addRealtimeData parser type.val value.val time.val).realtimeData
  toasts : ∀ page, (react page).toasts = page.toasts ++ toasts

theorem Shows.id : Shows parser (fun page => page) none [] :=
  ⟨fun _ => rfl, fun _ => (List.append_nil _).symm⟩

/-- A listener that throws changes nothing. -/
theorem Shows.bind {α : Type} {x : Except Thrown α}
    {f : α → RealtimePage Html → Except Thrown (RealtimePage Html)}
    (h : ∀ a, x = .ok a → ∃ item toasts, Shows parser (fun page =>
      match f a page with
      | .ok page => page
      | .error _ => page) item toasts) :
    ∃ item toasts, Shows parser (fun page =>
      match x >>= fun a => f a page with
      | .ok page => page
      | .error _ => page) item toasts := by
  cases x with
  | error e => exact ⟨none, [], .id⟩
  | ok a => exact h a rfl

/-- The listeners convert what they show before they touch the page. -/
theorem call_shows {data : JsValue R} (hdata : PlainIds lang data) (time : PlainText)
    (l : Listener) : ∃ item toasts, Shows parser (fun page =>
      match l.call parser lang data time.val page with
      | .ok page => page
      | .error _ => page) item toasts := by
  cases l with
  | connected => exact ⟨none, _, fun _ => rfl, fun _ => rfl⟩
  | disconnected => exact ⟨none, [], fun _ => rfl, fun _ => (List.append_nil _).symm⟩
  | laserData =>
      simp only [Listener.call, handleLaserData]
      refine Shows.bind fun porcelainId hid => Shows.bind fun id htext => ?_
      refine Shows.bind fun maxDepth _ => Shows.bind fun depth _ => ?_
      have hvalue := plain_laserValue (hdata porcelainId id hid htext) depth.2
      refine ⟨some (⟨"激光扫描", by decide⟩, ⟨_, hvalue⟩, time), [], fun page => ?_, fun page => ?_⟩
      · dsimp only [pure, Except.pure]
        split <;> rfl
      · dsimp only [pure, Except.pure]
        rw [List.append_nil]
        split <;> rfl
  | vibrationData =>
      simp only [Listener.call, handleVibrationData]
      refine Shows.bind fun porcelainId hid => Shows.bind fun id htext => ?_
      refine Shows.bind fun amplitude _ => Shows.bind fun rms _ => ?_
      have hvalue := plain_vibrationValue (hdata porcelainId id hid htext)
        (lang.toFixedNaN (rms.map (· * 10 ^ 9)) 2).2
      exact ⟨some (⟨"振动监测", by decide⟩, ⟨_, hvalue⟩, time), [], fun _ => rfl,
        fun _ => (List.append_nil _).symm⟩
  | alert =>
      simp only [Listener.call, handleAlert]
      refine Shows.bind fun message _ => Shows.bind fun text _ => ?_
      exact ⟨none, _, fun _ => rfl, fun _ => rfl⟩

theorem emit_shows {event : String} {data : JsValue R} (time : PlainText)
    (h : PlainIds lang data ∨ (listeners.filter fun entry => entry.1 = event) = []) :
    ∃ item toasts, Shows parser (fun page => page.emit parser lang event data time.val) item
      toasts := by
  simp only [emit]
  rcases listeners_filter event with hnone | ⟨l, hone⟩
  · exact ⟨none, [], by simpa only [hnone] using .id⟩
  · rcases h with hdata | hnone
    · simp only [hone]
      exact call_shows hdata time l
    · rw [hone] at hnone
      cases hnone

/-- A listener gets the `data` of a message. -/
theorem messageEvent_cases {j : JsValue R} {event : String} {data : JsValue R}
    (h : messageEvent j = .ok (event, data)) :
    getField j "data" = .ok data ∨ (listeners.filter fun entry => entry.1 = event) = [] := by
  simp only [messageEvent, bind, Except.bind] at h
  cases htype : messageType j with
  | error e =>
      rw [htype] at h
      cases h
  | ok type =>
      rw [htype] at h
      dsimp only at h
      split at h
      · cases hdata : getField j "data" with
        | error e =>
            rw [hdata] at h
            cases h
        | ok value =>
            rw [hdata] at h
            cases h
            exact .inl rfl
      · cases h
        exact .inr (by decide)

theorem react_shows {e : PanelEvent R} (h : e.Plain lang) :
    ∃ item toasts, Shows parser (fun page => page.react parser lang e) item toasts := by
  cases e with
  | opened => exact emit_shows ⟨"", by decide⟩ (.inl fun _ _ h => by cases h)
  | closed => exact emit_shows ⟨"", by decide⟩ (.inl fun _ _ h => by cases h)
  | select porcelainId => exact ⟨none, [], fun _ => rfl, fun _ => (List.append_nil _).symm⟩
  | message data time =>
      cases data with
      | none => exact ⟨none, [], .id⟩
      | some data =>
          simp only [react, handleMessage]
          cases hevent : messageEvent (some data) with
          | error e => exact ⟨none, [], .id⟩
          | ok p => exact emit_shows time ((messageEvent_cases hevent).imp_left (h p.2))

/-! ## The panel -/

/-- The readings in the panel. -/
def items (page : RealtimePage Html) : List (Node Html) := page.realtimeData.filter Node.isItem

end RealtimePage

theorem trim_isPrefix (nodes : List (Node Html)) : trim nodes <+: nodes := by
  induction nodes using trim.induct with
  | case1 nodes hlong ih =>
      rw [trim, if_pos hlong]
      exact ih.trans nodes.dropLast_prefix
  | case2 nodes hshort =>
      have htrim : trim nodes = nodes := by rw [trim, if_neg hshort]
      exact ⟨[], by rw [htrim, List.append_nil]⟩

/-- The first ten elements stay. -/
theorem filter_trim (nodes : List (Node Html)) :
    (trim nodes).filter Node.isElement = (nodes.filter Node.isElement).take 10 := by
  induction nodes using trim.induct with
  | case1 nodes hlong ih =>
      have hnil : nodes ≠ [] := by
        rintro rfl
        cases hlong
      have hsplit : nodes.filter Node.isElement =
          nodes.dropLast.filter Node.isElement ++
            [nodes.getLast hnil].filter Node.isElement := by
        rw [← List.filter_append, List.dropLast_concat_getLast]
      have hlast : ([nodes.getLast hnil].filter Node.isElement).length ≤ 1 :=
        List.length_filter_le _ _
      rw [List.countP_eq_length_filter, hsplit, List.length_append] at hlong
      rw [trim, if_pos (by rwa [List.countP_eq_length_filter, hsplit, List.length_append]), ih,
        hsplit, List.take_append_of_le_length (by omega)]
  | case2 nodes hshort =>
      rw [List.countP_eq_length_filter] at hshort
      rw [trim, if_neg (by rwa [List.countP_eq_length_filter]),
        List.take_of_length_le (by omega)]

theorem filter_isItem {nodes : List (Node Html)} (h : nodes.countP Node.isNoData = 0) :
    nodes.filter Node.isItem = nodes.filter Node.isElement :=
  List.filter_congr fun node hnode => by
    cases node with
    | whitespace => rfl
    | noData => exact absurd rfl (List.countP_eq_zero.mp h .noData hnode)
    | item html => rfl

/-- The paragraph stands there once at most, and there is no other element of its class. -/
structure Tidy (parser : Parser Html) (nodes : List (Node Html)) : Prop where
  once : nodes.countP Node.isNoData ≤ 1
  plain : ∀ html, .item html ∈ nodes → parser.removeNoData html = none

/-- Then the paragraph is what is found. -/
theorem Tidy.removeFirst {parser : Parser Html} {nodes : List (Node Html)}
    (h : Tidy parser nodes) : (parser.removeFirst nodes).filter Node.isItem =
        nodes.filter Node.isItem ∧ (parser.removeFirst nodes).countP Node.isNoData = 0 ∧
      parser.removeFirst nodes ⊆ nodes := by
  induction nodes with
  | nil => exact ⟨rfl, rfl, List.Subset.refl _⟩
  | cons node nodes ih =>
      have hcount := h.once
      rw [List.countP_cons] at hcount
      cases node with
      | noData =>
          refine ⟨rfl, ?_, List.subset_cons_self _ _⟩
          simp only [Node.isNoData, if_true] at hcount
          exact Nat.le_zero.mp (Nat.le_of_succ_le_succ hcount)
      | whitespace =>
          obtain ⟨hitems, hgone, hsub⟩ :=
            ih ⟨by omega, fun html hmem => h.plain html (List.mem_cons_of_mem _ hmem)⟩
          exact ⟨hitems, hgone, List.cons_subset_cons _ hsub⟩
      | item html =>
          obtain ⟨hitems, hgone, hsub⟩ :=
            ih ⟨by omega, fun html hmem => h.plain html (List.mem_cons_of_mem _ hmem)⟩
          rw [Parser.removeFirst, h.plain html List.mem_cons_self]
          refine ⟨congrArg (List.cons _) hitems, hgone, List.cons_subset_cons _ hsub⟩

namespace RealtimePage

variable {parser : Parser Html}

/-- The paragraph goes, and the last of eleven readings. -/
theorem items_addRealtimeData {page : RealtimePage Html} (h : Tidy parser page.realtimeData)
    (type value time : PlainText) :
    (page.addRealtimeData parser type.val value.val time.val).items =
        (.item (parser.parse (itemHtml type.val value.val time.val)) :: page.items).take 10 ∧
      Tidy parser (page.addRealtimeData parser type.val value.val time.val).realtimeData := by
  obtain ⟨hitems, hgone, hsub⟩ := h.removeFirst
  let new : Node Html := .item (parser.parse (itemHtml type.val value.val time.val))
  have hnew : (new :: parser.removeFirst page.realtimeData).countP Node.isNoData = 0 := hgone
  have hsublist := (trim_isPrefix (new :: parser.removeFirst page.realtimeData)).sublist
  have hkept : (trim (new :: parser.removeFirst page.realtimeData)).countP Node.isNoData = 0 :=
    Nat.le_zero.mp (hnew ▸ hsublist.countP_le)
  refine ⟨?_, ?_, fun html hmem => ?_⟩
  · show (trim (new :: _)).filter Node.isItem = _
    rw [filter_isItem hkept, filter_trim, ← filter_isItem hnew,
      List.filter_cons_of_pos rfl, hitems, items]
  · exact Nat.le_trans (Nat.le_of_eq hkept) (Nat.zero_le 1)
  · rcases List.mem_cons.mp (hsublist.subset hmem) with heq | hold
    · rw [Node.item.inj heq]
      exact parser.plain type value time
    · exact h.plain html (hsub hold)

theorem tidy_fresh : Tidy parser (fresh : RealtimePage Html).realtimeData :=
  ⟨Nat.le_refl 1, fun _ h => by simp [fresh] at h⟩

variable {R : Type} [Field R] [DecidableEq R] (parser : Parser Html) (lang : Language R)

/-- The reading that an event shows on the page as it was loaded, if it does. -/
def newest (e : PanelEvent R) : Option (Node Html) := (fresh.react parser lang e).items.head?

/-- The toasts that an event shows there. -/
def newToasts (e : PanelEvent R) : List Toast := (fresh.react parser lang e).toasts

/-- What an event shows does not depend on the page. -/
theorem react_items {page : RealtimePage Html} (h : Tidy parser page.realtimeData)
    (hfew : page.items.length ≤ 10) {e : PanelEvent R} (he : e.Plain lang) :
    (page.react parser lang e).items = ((newest parser lang e).toList ++ page.items).take 10 ∧
      Tidy parser (page.react parser lang e).realtimeData ∧
      (page.react parser lang e).toasts = page.toasts ++ newToasts parser lang e := by
  obtain ⟨item, toasts, hdata, htoasts⟩ : ∃ item toasts, Shows parser _ item toasts :=
    react_shows he
  have hnewToasts : newToasts parser lang e = toasts := htoasts fresh
  cases item with
  | none =>
      have hitems : ∀ page : RealtimePage Html, (page.react parser lang e).items = page.items :=
        fun page => congrArg (List.filter Node.isItem) (hdata page)
      have hnewest : newest parser lang e = none := congrArg List.head? (hitems fresh)
      rw [hitems, hnewest, hdata, htoasts, hnewToasts]
      exact ⟨(List.take_of_length_le hfew).symm, h, rfl⟩
  | some item =>
      obtain ⟨type, value, time⟩ := item
      have hitems : ∀ page : RealtimePage Html, (page.react parser lang e).items =
          (page.addRealtimeData parser type.val value.val time.val).items := fun page =>
        congrArg (List.filter Node.isItem) (hdata page)
      have hnewest : newest parser lang e =
          some (.item (parser.parse (itemHtml type.val value.val time.val))) := by
        rw [newest, hitems, (items_addRealtimeData tidy_fresh type value time).1]
        rfl
      obtain ⟨hadd, htidy⟩ := items_addRealtimeData h type value time
      rw [hitems, hadd, hnewest, hdata, htoasts, hnewToasts]
      exact ⟨rfl, htidy, rfl⟩

/-- In every run of the page whose messages have no markup in their ids, the panel holds the
latest ten of the readings that its events show, the newest first, and no toast is lost. -/
theorem panel_latest {events : List (PanelEvent R)} (hplain : ∀ e ∈ events, e.Plain lang) :
    (events.foldl (react parser lang) fresh).items =
        ((events.filterMap (newest parser lang)).reverse).take 10 ∧
      (events.foldl (react parser lang) fresh).toasts =
        events.flatMap (newToasts parser lang) := by
  have hrun : ∀ page : RealtimePage Html, Tidy parser page.realtimeData →
      page.items.length ≤ 10 →
      (events.foldl (react parser lang) page).items =
          ((events.filterMap (newest parser lang)).reverse ++ page.items).take 10 ∧
        (events.foldl (react parser lang) page).toasts =
          page.toasts ++ events.flatMap (newToasts parser lang) := by
    induction events with
    | nil => exact fun page _ hfew =>
        ⟨(List.take_of_length_le hfew).symm, (List.append_nil _).symm⟩
    | cons e events ih =>
        intro page h hfew
        obtain ⟨he, hevents⟩ := List.forall_mem_cons.mp hplain
        obtain ⟨hitems, htidy, htoasts⟩ := react_items parser lang h hfew he
        have hfew' : (page.react parser lang e).items.length ≤ 10 := by
          rw [hitems, List.length_take]
          exact Nat.min_le_left _ _
        obtain ⟨hitems', htoasts'⟩ := ih hevents (page.react parser lang e) htidy hfew'
        rw [List.foldl_cons, hitems', htoasts', hitems, htoasts, List.flatMap_cons,
          List.append_assoc]
        refine ⟨?_, rfl⟩
        have hcons : ((e :: events).filterMap (newest parser lang)).reverse =
            (events.filterMap (newest parser lang)).reverse ++ (newest parser lang e).toList := by
          cases h : newest parser lang e with
          | none => rw [List.filterMap_cons_none h, Option.toList_none, List.append_nil]
          | some item => rw [List.filterMap_cons_some h, List.reverse_cons, Option.toList_some]
        rw [hcons, List.append_assoc]
        generalize (newest parser lang e).toList ++ page.items = held
        rw [List.take_append, List.take_append, List.take_take, Nat.min_eq_left (Nat.sub_le _ _)]
  have hfresh := hrun fresh tidy_fresh (Nat.zero_le 10)
  rw [show (fresh : RealtimePage Html).items = [] from rfl, List.append_nil] at hfresh
  exact hfresh

theorem newest_of_adds {e : PanelEvent R} {type value time : PlainText}
    (h : fresh.react parser lang e = fresh.addRealtimeData parser type.val value.val time.val) :
    newest parser lang e =
      some (.item (parser.parse (itemHtml type.val value.val time.val))) := by
  rw [newest, h, (items_addRealtimeData tidy_fresh type value time).1]
  rfl

end RealtimePage

/-- Texts that are written as they are, and values that have no text. -/
def plainLanguage : Language ℚ where
  toFixed _ _ := ⟨"0.0", by decide⟩
  plain _ := ⟨"7", by decide⟩
  text _ := "7a"
  composite _ := .error ()
  textNumber _ := none
  compositeNumber _ := .error ()

/-- Items without elements of class `no-data`. -/
def plainParser : Parser String := ⟨fun html => html, fun _ => none, fun _ _ _ => rfl⟩

/-- A message of this type about a porcelain. -/
def readingOf (type : String) (porcelainId : Json ℚ) : PanelEvent ℚ :=
  .message
    (some (.object [("type", .text type), ("data", .object [("porcelain_id", porcelainId)])]))
    ⟨"09:00", by decide⟩

/-- A number, a text and an object without a text as the ids. -/
def readings : List (PanelEvent ℚ) :=
  [.opened, readingOf "laser_data" (.int 7), readingOf "vibration_data" (.text "7a"),
    readingOf "laser_data" (.object [("toString", .int 1)])]

open RealtimePage in
theorem panel_latest_readings :
    let page := readings.foldl (react plainParser plainLanguage) fresh
    page.items = [.item (itemHtml "振动监测" (vibrationValue "7a" "NaN") "09:00"),
        .item (itemHtml "激光扫描" (laserValue "7" "0.0") "09:00")] ∧
      page.toasts = [⟨"实时数据连接已建立", "success"⟩] := by
  have hplain : ∀ {type : String} {porcelainId : Json ℚ},
      (∀ id, plainLanguage.template (some porcelainId) = .ok id → '<' ∉ id.toList) →
      (readingOf type porcelainId).Plain plainLanguage := by
    rintro type porcelainId hid data hdata _ id hporcelain
    cases hdata
    cases hporcelain
    exact hid id
  have hevents : ∀ e ∈ readings, e.Plain plainLanguage := by
    simp only [readings, List.forall_mem_cons]
    refine ⟨trivial, hplain fun id h => ?_, hplain fun id h => ?_, hplain fun id h => ?_, ?_⟩
    · cases h
      decide
    · cases h
      decide
    · cases h
    · exact fun _ h => absurd h List.not_mem_nil
  have hlaser : newest plainParser plainLanguage (readingOf "laser_data" (.int 7)) =
      some (.item (itemHtml "激光扫描" (laserValue "7" "0.0") "09:00")) :=
    @newest_of_adds _ _ _ _ _ _ _ ⟨"激光扫描", by decide⟩ ⟨laserValue "7" "0.0", by decide⟩
      ⟨"09:00", by decide⟩ rfl
  have hvibration :
      newest plainParser plainLanguage (readingOf "vibration_data" (.text "7a")) =
        some (.item (itemHtml "振动监测" (vibrationValue "7a" "NaN") "09:00")) :=
    @newest_of_adds _ _ _ _ _ _ _ ⟨"振动监测", by decide⟩ ⟨vibrationValue "7a" "NaN", by decide⟩
      ⟨"09:00", by decide⟩ rfl
  have hopened : newest plainParser plainLanguage .opened = none := rfl
  have hobject : newest plainParser plainLanguage
      (readingOf "laser_data" (.object [("toString", .int 1)])) = none := rfl
  obtain ⟨hitems, htoasts⟩ := panel_latest plainParser plainLanguage hevents
  refine ⟨hitems.trans ?_, htoasts.trans rfl⟩
  simp only [readings, List.filterMap_cons, hopened, hlaser, hvibration, hobject]
  rfl

/-! ## What the server sends -/

namespace RealtimePage

variable {R : Type} [Field R] [DecidableEq R] (parser : Parser Html) (lang : Language R)

omit [Field R] [DecidableEq R] in
/-- An id that is a number has no markup. -/
theorem plain_of_int {j : Json R} {data : JsValue R} {n : Int} (time : PlainText)
    (hdata : getField (some j) "data" = .ok data)
    (hid : getField data "porcelain_id" = .ok (some (.int n))) :
    PanelEvent.Plain lang (.message (some j) time) := by
  intro data' hdata' porcelainId id hid' htext
  cases hdata.symm.trans hdata'
  cases hid.symm.trans hid'
  cases htext
  exact (lang.plain _).2

/-- How a laser reading of the server is shown: it does not send the depth. -/
def laserItem (msg : ParsedLaserMessage R) (time : PlainText) : Node Html :=
  .item (parser.parse (itemHtml "激光扫描" (laserValue
    (lang.plain (some (.int msg.data.porcelainId))).val (lang.toFixed 0 1).val) time.val))

/-- And a vibration reading: it sends the amplitude under another name. -/
def vibrationItem (msg : ParsedVibrationMessage R) (time : PlainText) : Node Html :=
  .item (parser.parse (itemHtml "振动监测" (vibrationValue
    (lang.plain (some (.int msg.data.porcelainId))).val "NaN") time.val))

theorem newest_laser (msg : ParsedLaserMessage R) (time : PlainText) :
    newest parser lang (.message (Taken.laser msg).json time) =
      some (laserItem parser lang msg time) := by
  rw [laserItem, ← Int.cast_zero]
  exact @newest_of_adds _ _ _ _ parser lang _ ⟨"激光扫描", by decide⟩
    ⟨laserValue _ _, plain_laserValue (lang.plain (some (.int msg.data.porcelainId))).2
      (lang.toFixed _ 1).2⟩ time rfl

theorem newest_vibration (msg : ParsedVibrationMessage R) (time : PlainText) :
    newest parser lang (.message (Taken.vibration msg).json time) =
      some (vibrationItem parser lang msg time) :=
  @newest_of_adds _ _ _ _ parser lang _ ⟨"振动监测", by decide⟩
    ⟨vibrationValue _ "NaN",
      plain_vibrationValue (lang.plain (some (.int msg.data.porcelainId))).2 (by decide)⟩ time rfl

/-- What a reading is shown as, whatever it was. -/
inductive Blank : Taken R → Node Html → Prop where
  | laser (msg : ParsedLaserMessage R) (time : PlainText) :
      Blank (.laser msg) (laserItem parser lang msg time)
  | vibration (msg : ParsedVibrationMessage R) (time : PlainText) :
      Blank (.vibration msg) (vibrationItem parser lang msg time)

/-- What the worker broadcasts about a round. -/
theorem taken_shows {taken : Taken R} {j : Json R} (hj : taken.json = some j)
    (time : PlainText) :
    PanelEvent.Plain lang (.message (some j) time) ∧
      (∀ node, newest parser lang (.message (some j) time) = some node →
        Blank parser lang taken node) ∧
      newToasts parser lang (.message (some j) time) = [] := by
  cases taken with
  | laser msg =>
      cases hj
      refine ⟨plain_of_int lang time rfl rfl, fun node hnode => ?_, rfl⟩
      cases (newest_laser parser lang msg time).symm.trans hnode
      exact .laser msg time
  | vibration msg =>
      cases hj
      refine ⟨plain_of_int lang time rfl rfl, fun node hnode => ?_, rfl⟩
      cases (newest_vibration parser lang msg time).symm.trans hnode
      exact .vibration msg time
  | prediction msg =>
      cases hj
      exact ⟨plain_of_int lang time rfl rfl, fun _ h => (by cases h), rfl⟩
  | dem msg =>
      cases hj
      exact ⟨plain_of_int lang time rfl rfl, fun _ h => (by cases h), rfl⟩
  | nothing => cases hj

/-- The toast of an alert. -/
def alertToast (alert : Alert R) : Toast :=
  let message := alert.message.toUTF8.data.toList
  ⟨"告警: " ++ lang.text (if message ≠ [] then message else "新的告警".toUTF8.data.toList), "error"⟩

theorem template_message (alert : Alert R) :
    lang.template (orElse (some (.text alert.message)) (some (.text "新的告警"))) =
      .ok (lang.text (if alert.message.toUTF8.data.toList ≠ [] then
        alert.message.toUTF8.data.toList else "新的告警".toUTF8.data.toList)) := by
  simp only [orElse, truthy, Json.text, decide_eq_true_eq]
  split
  · rfl
  · rfl

theorem emit_alert {data : JsValue R} {time : String} {page page' : RealtimePage Html}
    (h : page.handleAlert lang data = .ok page') :
    page.emit parser lang "alert" data time = page' := by
  have hone : (listeners.filter fun entry => entry.1 = "alert") = [("alert", .alert)] := rfl
  rw [emit, hone, List.foldl_cons, List.foldl_nil]
  simp only [Listener.call, h]

theorem alert_shows (alert : Alert R) (time : PlainText) :
    PanelEvent.Plain lang (.message (some (alertJson alert)) time) ∧
      newest parser lang (.message (some (alertJson alert)) time) = none ∧
      newToasts parser lang (.message (some (alertJson alert)) time) = [alertToast lang alert] := by
  obtain ⟨data, hreact, hmessage⟩ : ∃ data : JsValue R,
      (∀ page : RealtimePage Html, page.react parser lang
        (.message (some (alertJson alert)) time) = page.emit parser lang "alert" data time.val) ∧
      getField data "message" = .ok (some (.text alert.message)) := ⟨_, fun _ => rfl, rfl⟩
  have hcall : ∀ page : RealtimePage Html, page.handleAlert lang data =
      .ok (((page.showToast (alertToast lang alert).message "error").refresh
        .updateAlertCount).refresh .loadAlerts) := by
    intro page
    simp only [handleAlert, hmessage, bind, Except.bind, template_message]
    rfl
  refine ⟨plain_of_int lang time rfl rfl, ?_, ?_⟩
  · rw [newest, hreact, emit_alert parser lang (hcall fresh)]
    rfl
  · rw [newToasts, hreact, emit_alert parser lang (hcall fresh)]
    rfl

/-- What the page shows for an event, if its messages come from the worker and the alerts. -/
theorem pushed_shows (rounds : List (Alert R × Taken R)) (alerts : List (Alert R))
    {e : PanelEvent R} (h : ∀ j time, e = .message (some j) time →
      (∃ round ∈ rounds, round.2.json = some j) ∨ ∃ alert ∈ alerts, j = alertJson alert) :
    e.Plain lang ∧
      (∀ node, newest parser lang e = some node →
        ∃ round ∈ rounds, Blank parser lang round.2 node) ∧
      ∀ toast ∈ newToasts parser lang e, toast = ⟨"实时数据连接已建立", "success"⟩ ∨
        ∃ alert ∈ alerts, toast = alertToast lang alert := by
  cases e with
  | opened =>
      exact ⟨trivial, fun _ h => (by cases h), fun _ h => .inl (List.mem_singleton.mp h)⟩
  | closed => exact ⟨trivial, fun _ h => (by cases h), fun _ h => by cases h⟩
  | select porcelainId => exact ⟨trivial, fun _ h => (by cases h), fun _ h => by cases h⟩
  | message data time =>
      cases data with
      | none => exact ⟨trivial, fun _ h => (by cases h), fun _ h => by cases h⟩
      | some j =>
          rcases h j time rfl with ⟨round, hround, hj⟩ | ⟨alert, halert, rfl⟩
          · obtain ⟨hplain, hblank, htoasts⟩ := taken_shows parser lang hj time
            refine ⟨hplain, fun node hnode => ⟨round, hround, hblank node hnode⟩, fun toast h => ?_⟩
            rw [htoasts] at h
            cases h
          · obtain ⟨hplain, hnone, htoasts⟩ := alert_shows parser lang alert time
            refine ⟨hplain, fun node hnode => ?_, fun toast h => ?_⟩
            · cases hnone.symm.trans hnode
            · rw [htoasts] at h
              exact .inr ⟨alert, halert, List.mem_singleton.mp h⟩

end RealtimePage

open RealtimePage in
/-- Whatever the worker has measured, stored and sent in its rounds, and in whatever order and
however often its messages and those of the alerts arrive: the panel shows each reading with
the depth zero or an amplitude that is no number. -/
theorem pushed_readings_blank {R σ : Type} [Field R] [LinearOrder R] (parser : Parser Html)
    (lang : Language R) (services : Services (Effects.Comp Failure σ) R)
    (mgr : Alerts.AlertManager R) (ostream : R → String) (s : σ)
    (rounds : List (Alert R × Taken R)) (alerts : List (Alert R)) {events : List (PanelEvent R)}
    (h : ∀ j time, .message (some j) time ∈ events →
      j ∈ (Modules.handleRounds (Modules.broadcasting services) mgr ostream (s, []) rounds).2 ∨
        ∃ alert ∈ alerts, j = alertJson alert) :
    let page := events.foldl (react parser lang) fresh
    (∀ node ∈ page.items, ∃ round ∈ rounds, Blank parser lang round.2 node) ∧
      ∀ toast ∈ page.toasts, toast = ⟨"实时数据连接已建立", "success"⟩ ∨
        ∃ alert ∈ alerts, toast = alertToast lang alert := by
  obtain ⟨new, hnew, hsub⟩ := Modules.broadcasts_sublist services mgr ostream rounds (s, [])
  have hshows : ∀ e ∈ events, e.Plain lang ∧ _ ∧ _ := fun e he =>
    pushed_shows parser lang rounds alerts fun j time heq => by
      refine (h j time (heq ▸ he)).imp_left fun hsent => ?_
      rw [hnew, List.nil_append] at hsent
      exact List.mem_filterMap.mp (hsub.subset hsent)
  obtain ⟨hitems, htoasts⟩ := panel_latest parser lang fun e he => (hshows e he).1
  refine ⟨fun node hnode => ?_, fun toast htoast => ?_⟩
  · rw [hitems] at hnode
    have hmem := List.mem_reverse.mp (List.mem_of_mem_take hnode)
    obtain ⟨e, he, hnewest⟩ := List.mem_filterMap.mp hmem
    exact (hshows e he).2.1 node hnewest
  · rw [htoasts] at htoast
    obtain ⟨e, he, hshown⟩ := List.mem_flatMap.mp htoast
    exact (hshows e he).2.2 toast hshown

/-- Everything succeeds. -/
def passingServices : Services (Effects.Comp Failure Unit) ℚ where
  logProfinetPacket _ _ _ _ := pure ()
  insertLaserData _ := pure 1
  insertVibrationData _ := pure 1
  insertCrack _ _ := pure 1
  insertCrackPoints _ _ := pure 0
  insertAlert _ := pure 1
  enqueueAlert _ := pure ()
  broadcastJson _ := pure ()
  now := pure 0

/-- A scan of a surface without cracks. -/
def smoothScan : ParsedLaserMessage ℚ :=
  ⟨⟨"10.0.0.1", "10.0.0.2", "LASER_DATA", 0x8001, []⟩,
    ⟨0, 1, 7, 0, (0, 0, 0, 0), 1, false, 0, [], .null⟩⟩

/-- An alert of which only the text matters. -/
def plainAlert : Alert ℚ :=
  ⟨0, .vibrationAnomaly, 7, 0, 21, 1, 2, "m/s²", "", .pending, false, false, 0⟩

theorem pushed_readings_blank_scan :
    let page := [PanelEvent.opened,
      .message (Taken.laser smoothScan).json ⟨"09:00", by decide⟩].foldl
        (RealtimePage.react plainParser plainLanguage) RealtimePage.fresh
    (∀ node ∈ page.items, ∃ round ∈ [(plainAlert, Taken.laser smoothScan)],
        RealtimePage.Blank plainParser plainLanguage round.2 node) ∧
      ∀ toast ∈ page.toasts, toast = ⟨"实时数据连接已建立", "success"⟩ ∨
        ∃ alert ∈ [], toast = RealtimePage.alertToast plainLanguage alert := by
  refine pushed_readings_blank plainParser plainLanguage passingServices ⟨200, 50⟩ (fun _ => "")
    () [(plainAlert, .laser smoothScan)] [] fun j time he => .inl ?_
  have hsent : (Modules.handleRounds (Modules.broadcasting passingServices) ⟨200, 50⟩
      (fun _ => "") ((), []) [(plainAlert, .laser smoothScan)]).2 =
        (Taken.laser smoothScan).json.toList := rfl
  rw [hsent]
  rcases List.mem_cons.mp he with heq | he
  · cases heq
  · cases List.mem_singleton.mp he
    exact List.mem_singleton.mpr rfl

end PorcelainMonitor.Frontend
