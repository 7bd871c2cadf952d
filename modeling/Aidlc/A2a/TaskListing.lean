import Mathlib.Data.List.Sort
import Mathlib.Data.Prod.Lex
import Mathlib.Data.String.Basic
import Aidlc.Domain.Models
import Aidlc.Foundation.Timestamp

/-! # Listing tasks page by page

A listing is filtered and sorted anew for every call, and a page starts at the task
whose identifier its token holds. Tasks are sorted, and compared with the time asked
for, by the texts of their timestamps.
-/

namespace Aidlc

open Foundation

/-- What `list` reads of a stored task. A status without a timestamp has the zero one. -/
structure ListedTask where
  id : String
  contextId : String
  state : TaskState
  timestamp : Timestamp
  deriving DecidableEq

namespace ListedTask

/-- The key tasks are sorted by, from the last to the first. -/
def key (task : ListedTask) : String ×ₗ String := toLex (task.timestamp.toJsonString, task.id)

/-- Keys compare by timestamp text and then by id. -/
theorem key_lt_iff {first second : ListedTask} : first.key < second.key ↔
    first.timestamp.toJsonString < second.timestamp.toJsonString ∨
      first.timestamp.toJsonString = second.timestamp.toJsonString ∧ first.id < second.id :=
  Prod.Lex.lt_iff

end ListedTask

/-- The tasks of one agent and owner; the identifier is the rest of their primary key. -/
structure TaskTable where
  tasks : List ListedTask
  nodup : (tasks.map ListedTask.id).Nodup

/-- `encode_page_token` and `decode_page_token` of the protocol's library. -/
structure PageTokens where
  encode : String → String
  decode : String → Except PyError String

structure ListTasksRequest where
  contextId : String := ""
  status : TaskState := .unspecified
  statusTimestampAfter : Option Timestamp := none
  pageToken : String := ""
  pageSize : Nat := 0

/-- The size of a page: without one in the request, fifty. -/
def ListTasksRequest.size (params : ListTasksRequest) : Nat :=
  if params.pageSize = 0 then 50 else params.pageSize

theorem ListTasksRequest.one_le_size (params : ListTasksRequest) : 1 ≤ params.size := by
  unfold size
  split <;> omega

structure ListTasksResponse where
  tasks : List ListedTask
  totalSize : Nat
  pageSize : Nat
  nextPageToken : String
  deriving DecidableEq

/-- The filter of a request: by context, by state and by the text of the time. -/
def ListTasksRequest.selects (params : ListTasksRequest) (task : ListedTask) : Bool :=
  (params.contextId == "" || task.contextId == params.contextId) &&
    (params.status == .unspecified || task.state == params.status) &&
    params.statusTimestampAfter.all fun after =>
      decide (after.toJsonString ≤ task.timestamp.toJsonString)

def sortTasks (tasks : List ListedTask) : List ListedTask :=
  tasks.insertionSort fun first second => second.key ≤ first.key

/-- The tasks from the one on that a page token holds. -/
def fromCursor (tokens : PageTokens) (tasks : List ListedTask) (pageToken : String) :
    Except PyError (List ListedTask) :=
  if pageToken = "" then .ok tasks
  else match tokens.decode pageToken with
    | .error error => .error error
    | .ok cursor =>
      match tasks.findIdx? fun task => task.id == cursor with
      | none => .error ⟨.invalidParamsError, "Invalid page token"⟩
      | some index => .ok (tasks.drop index)

/-- `SQLiteTaskStore.list` over the rows of the caller, in the order the database
returns them. -/
def listTasks (tokens : PageTokens) (rows : List ListedTask) (params : ListTasksRequest) :
    Except PyError ListTasksResponse :=
  let tasks := sortTasks (rows.filter params.selects)
  let total := tasks.length
  match fromCursor tokens tasks params.pageToken with
  | .error error => .error error
  | .ok tasks =>
    .ok {
      tasks := tasks.take params.size
      totalSize := total
      pageSize := params.size
      nextPageToken := match tasks[params.size]? with
        | some task => tokens.encode task.id
        | none => "" }

/-- Following the page tokens for at most `limit` calls: the pages, and the token after
the last of them. Each call reads the rows again, in an order of its own. -/
def followPages (tokens : PageTokens) (rows : Nat → List ListedTask) (params : ListTasksRequest) :
    Nat → Nat → String → Except PyError (List ListTasksResponse × String)
  | 0, _, token => .ok ([], token)
  | limit + 1, call, token =>
    match listTasks tokens (rows call) { params with pageToken := token } with
    | .error error => .error error
    | .ok page =>
      if page.nextPageToken = "" then .ok ([page], "")
      else match followPages tokens rows params limit (call + 1) page.nextPageToken with
        | .error error => .error error
        | .ok (pages, last) => .ok (page :: pages, last)

/-! ## One order for every call -/

section Order

variable {table : TaskTable} {rows : List ListedTask} {params : ListTasksRequest}

/-- The tasks a request selects, in the order of its pages. -/
def TaskTable.selection (table : TaskTable) (params : ListTasksRequest) : List ListedTask :=
  sortTasks (table.tasks.filter params.selects)

/-- Under the primary key a task is found by its id. -/
theorem TaskTable.eq_of_id (table : TaskTable) {first second : ListedTask}
    (hfirst : first ∈ table.tasks) (hsecond : second ∈ table.tasks)
    (hid : first.id = second.id) : first = second :=
  List.inj_on_of_nodup_map table.nodup hfirst hsecond hid

theorem TaskTable.mem_selection {task : ListedTask} :
    task ∈ table.selection params ↔ task ∈ table.tasks ∧ params.selects task = true := by
  rw [selection, sortTasks, List.mem_insertionSort, List.mem_filter]

/-- No task is selected twice. -/
theorem TaskTable.nodup_selection : ((table.selection params).map ListedTask.id).Nodup := by
  have hperm := (List.perm_insertionSort (fun first second : ListedTask => second.key ≤ first.key)
    (table.tasks.filter params.selects)).map ListedTask.id
  exact hperm.nodup_iff.mpr (table.nodup.sublist (List.filter_sublist.map _))

/-- The selection is in descending order of the keys. -/
theorem TaskTable.selection_pairwise :
    (table.selection params).Pairwise fun first second => second.key ≤ first.key :=
  List.pairwise_insertionSort (fun first second : ListedTask => second.key ≤ first.key) _

/-- The order of the rows does not show. -/
theorem sortTasks_of_perm (hperm : rows.Perm table.tasks) :
    sortTasks (rows.filter params.selects) = table.selection params := by
  have hsorted := List.pairwise_insertionSort
    (fun first second : ListedTask => second.key ≤ first.key) (rows.filter params.selects)
  have hsame : (sortTasks (rows.filter params.selects)).Perm (table.selection params) :=
    (List.perm_insertionSort _ _).trans
      ((hperm.filter _).trans (List.perm_insertionSort _ _).symm)
  refine hsame.eq_of_pairwise ?_ hsorted table.selection_pairwise
  intro first second hfirst hsecond hle hge
  have hkey := (toLex_inj.mp (le_antisymm hge hle))
  exact table.eq_of_id (TaskTable.mem_selection.mp (hsame.mem_iff.mp hfirst)).1
    (TaskTable.mem_selection.mp hsecond).1 (congrArg Prod.snd hkey)

end Order

/-! ## Pages -/

section Pages

variable {tokens : PageTokens} {table : TaskTable} {params : ListTasksRequest}

/-- A cursor is found where its task stands. -/
theorem findIdx?_cursor {before later : List ListedTask} {task : ListedTask}
    (hnodup : ((before ++ task :: later).map ListedTask.id).Nodup) :
    ((before ++ task :: later).findIdx? fun other => other.id == task.id) =
      some before.length := by
  induction before with
  | nil => simp [List.findIdx?_cons]
  | cons head rest ih =>
      rw [List.cons_append, List.map_cons, List.nodup_cons] at hnodup
      have hhead : ¬head.id = task.id := fun hid =>
        hnodup.1 (hid ▸ List.mem_map_of_mem (List.mem_append_right _ List.mem_cons_self))
      rw [List.cons_append, List.findIdx?_cons, ih hnodup.2]
      simp [hhead]

/-- Whether a token stands for the rest of a listing. -/
def PointsTo (tokens : PageTokens) (table : TaskTable) (params : ListTasksRequest)
    (token : String) (rest : List ListedTask) : Prop :=
  fromCursor tokens (table.selection params) token = .ok rest

/-- The empty token points to the whole selection. -/
theorem pointsTo_start : PointsTo tokens table params "" (table.selection params) :=
  if_pos rfl

/-- The token of a task points to what follows it. -/
theorem pointsTo_encode {before later : List ListedTask} {task : ListedTask}
    (hsplit : table.selection params = before ++ task :: later)
    (hundo : tokens.decode (tokens.encode task.id) = .ok task.id)
    (htoken : tokens.encode task.id ≠ "") :
    PointsTo tokens table params (tokens.encode task.id) (task :: later) := by
  have hnodup : ((table.selection params).map ListedTask.id).Nodup := table.nodup_selection
  rw [hsplit] at hnodup
  rw [PointsTo, fromCursor, if_neg htoken, hundo, hsplit]
  simp only [findIdx?_cursor hnodup, List.drop_left]

/-- A page is the start of what its token points to. -/
theorem listTasks_of_pointsTo {rows : List ListedTask} {token : String} {rest : List ListedTask}
    (hrows : rows.Perm table.tasks) (htoken : PointsTo tokens table params token rest) :
    listTasks tokens rows { params with pageToken := token } = .ok {
      tasks := rest.take params.size
      totalSize := (table.selection params).length
      pageSize := params.size
      nextPageToken := match rest[params.size]? with
        | some task => tokens.encode task.id
        | none => "" } := by
  have hsorted : sortTasks (rows.filter { params with pageToken := token }.selects) =
      table.selection params := sortTasks_of_perm hrows
  simp only [listTasks, hsorted]
  rw [show fromCursor tokens (table.selection params) token = .ok rest from htoken]
  rfl

/-- The identifiers in base 64. -/
def sampleTokens : PageTokens where
  encode id := if id = "one" then "b25l" else if id = "two" then "dHdv" else "dGhyZWU="
  decode token := .ok (if token = "b25l" then "one" else if token = "dHdv" then "two" else "three")

def sampleTable : TaskTable where
  tasks := [
    ⟨"one", "", .working, ⟨20, 0, by decide, by decide⟩⟩,
    ⟨"two", "", .working, ⟨20, 21000000, by decide, by decide⟩⟩,
    ⟨"three", "", .completed, ⟨19, 0, by decide, by decide⟩⟩]
  nodup := by decide

/-- The pages of the rest of a listing. -/
def pagesOf (tokens : PageTokens) (size total : Nat) : Nat → List ListedTask →
    List ListTasksResponse
  | 0, _ => []
  | limit + 1, rest =>
    match rest[size]? with
    | none => [⟨rest, total, size, ""⟩]
    | some task => ⟨rest.take size, total, size, tokens.encode task.id⟩ ::
        pagesOf tokens size total limit (rest.drop size)

/-- Following the tokens from there yields the pages of the rest. -/
theorem follow_rest (hundo : ∀ task ∈ table.tasks,
      tokens.decode (tokens.encode task.id) = .ok task.id ∧ tokens.encode task.id ≠ "")
    {rows : Nat → List ListedTask} (hrows : ∀ call, (rows call).Perm table.tasks)
    {limit bound call : Nat} {token : String}
    {before rest : List ListedTask} (hsplit : table.selection params = before ++ rest)
    (htoken : PointsTo tokens table params token rest) (hbound : rest.length < bound)
    (hlimit : bound ≤ limit) :
    followPages tokens rows params limit call token = .ok
      (pagesOf tokens params.size (table.selection params).length bound rest, "") := by
  induction bound generalizing limit call token before rest with
  | zero => omega
  | succ bound ih =>
      obtain ⟨limit, rfl⟩ := Nat.exists_eq_succ_of_ne_zero (show limit ≠ 0 by omega)
      rw [followPages, listTasks_of_pointsTo (hrows call) htoken, pagesOf]
      cases hnext : rest[params.size]? with
      | none =>
          rw [List.getElem?_eq_none_iff] at hnext
          simp only [if_true, List.take_of_length_le hnext]
      | some task =>
          have hsize := params.one_le_size
          have hlt : params.size < rest.length := (List.getElem?_eq_some_iff.mp hnext).1
          have hdrop : rest.drop params.size = task :: rest.drop (params.size + 1) := by
            rw [List.drop_eq_getElem_cons hlt, (List.getElem?_eq_some_iff.mp hnext).2]
          have hsplit' : table.selection params =
              (before ++ rest.take params.size) ++ rest.drop params.size := by
            rw [List.append_assoc, List.take_append_drop, hsplit]
          have hmem : task ∈ table.tasks := by
            have hselected : task ∈ table.selection params := by
              rw [hsplit', hdrop]
              exact List.mem_append_right _ List.mem_cons_self
            exact (TaskTable.mem_selection.mp hselected).1
          obtain ⟨hdecode, hnonempty⟩ := hundo task hmem
          have hpoints := pointsTo_encode (hdrop ▸ hsplit') hdecode hnonempty
          rw [← hdrop] at hpoints
          have hfewer : (rest.drop params.size).length < bound := by
            rw [List.length_drop]
            omega
          simp only [if_neg hnonempty,
            ih hsplit' hpoints hfewer (show bound ≤ limit by omega)]

/-- The pages of a list have its tasks in order. -/
theorem pagesOf_tasks {size total bound : Nat} {rest : List ListedTask} (hsize : 1 ≤ size)
    (hbound : rest.length < bound) :
    (pagesOf tokens size total bound rest).flatMap ListTasksResponse.tasks = rest := by
  induction bound generalizing rest with
  | zero => omega
  | succ bound ih =>
      rw [pagesOf]
      cases hnext : rest[size]? with
      | none => simp
      | some task =>
          have hlt : size < rest.length := (List.getElem?_eq_some_iff.mp hnext).1
          have hfewer : (rest.drop size).length < bound := by
            rw [List.length_drop]
            omega
          rw [List.flatMap_cons, ih hfewer, List.take_append_drop]

theorem pagesOf_totalSize {size total bound : Nat} {rest : List ListedTask}
    {page : ListTasksResponse} (hpage : page ∈ pagesOf tokens size total bound rest) :
    page.totalSize = total := by
  induction bound generalizing rest with
  | zero => simp [pagesOf] at hpage
  | succ bound ih =>
      rw [pagesOf] at hpage
      cases hnext : rest[size]? with
      | none =>
          rw [hnext] at hpage
          rw [List.mem_singleton.mp hpage]
      | some task =>
          rw [hnext] at hpage
          rcases List.mem_cons.mp hpage with rfl | hlater
          · rfl
          · exact ih hlater

/-- Following the tokens from the start yields the selection. -/
theorem follow_selection (hundo : ∀ task ∈ table.tasks,
      tokens.decode (tokens.encode task.id) = .ok task.id)
    (htoken : ∀ task ∈ table.tasks, tokens.encode task.id ≠ "") :
    ∃ pages : List ListTasksResponse,
      pages.flatMap ListTasksResponse.tasks = table.selection params ∧
      (∀ page ∈ pages, page.totalSize = (table.selection params).length) ∧
      ∀ rows : Nat → List ListedTask, (∀ call, (rows call).Perm table.tasks) →
        ∀ limit, (table.selection params).length < limit →
          followPages tokens rows params limit 0 "" = .ok (pages, "") := by
  refine ⟨pagesOf tokens params.size (table.selection params).length
    ((table.selection params).length + 1) (table.selection params),
    pagesOf_tasks params.one_le_size (Nat.lt_succ_self _),
    fun page hpage => pagesOf_totalSize hpage, ?_⟩
  intro rows hrows limit hlimit
  exact @follow_rest tokens table params (fun task htask => ⟨hundo task htask, htoken task htask⟩)
    rows hrows limit ((table.selection params).length + 1) 0 "" [] (table.selection params) rfl
    pointsTo_start (Nat.lt_succ_self _) hlimit

/-- Following the tokens from the empty one visits each selected task once, in one
order that the size of the pages and the order of the rows do not change, and ends. -/
theorem listTasks_pages_complete (tokens : PageTokens) (table : TaskTable)
    (params : ListTasksRequest)
    (hundo : ∀ task ∈ table.tasks, tokens.decode (tokens.encode task.id) = .ok task.id)
    (htoken : ∀ task ∈ table.tasks, tokens.encode task.id ≠ "") :
    ∃ order : List ListedTask, order.Nodup ∧
      (∀ task, task ∈ order ↔ task ∈ table.tasks ∧ params.selects task = true) ∧
      ∀ pageSize, ∃ pages : List ListTasksResponse,
        pages.flatMap ListTasksResponse.tasks = order ∧
        (∀ page ∈ pages, page.totalSize = order.length) ∧
        ∀ rows : Nat → List ListedTask, (∀ call, (rows call).Perm table.tasks) →
          ∀ limit, order.length < limit →
            followPages tokens rows { params with pageSize := pageSize } limit 0 "" =
              .ok (pages, "") :=
  ⟨table.selection params, List.Nodup.of_map _ table.nodup_selection,
    fun _ => TaskTable.mem_selection,
    fun pageSize => @follow_selection tokens table { params with pageSize := pageSize } hundo htoken⟩

theorem pages_of_samples : (∀ task ∈ sampleTable.tasks,
      sampleTokens.decode (sampleTokens.encode task.id) = .ok task.id) ∧
    (∀ task ∈ sampleTable.tasks, sampleTokens.encode task.id ≠ "") ∧
    ∃ order : List ListedTask, order.Nodup ∧
      (∀ task, task ∈ order ↔ task ∈ sampleTable.tasks ∧
        ({ } : ListTasksRequest).selects task = true) ∧
      ∀ pageSize, ∃ pages : List ListTasksResponse,
        pages.flatMap ListTasksResponse.tasks = order ∧
        (∀ page ∈ pages, page.totalSize = order.length) ∧
        ∀ rows : Nat → List ListedTask, (∀ call, (rows call).Perm sampleTable.tasks) →
          ∀ limit, order.length < limit →
            followPages sampleTokens rows { pageSize := pageSize } limit 0 "" =
              .ok (pages, "") :=
  ⟨by decide, by decide, listTasks_pages_complete sampleTokens sampleTable { } (by decide)
    (by decide)⟩

end Pages

/-! ## Times -/

section Times

variable {tokens : PageTokens} {table : TaskTable} {params : ListTasksRequest}

/-- The task has the context and the state asked for. -/
def ListTasksRequest.Concerns (params : ListTasksRequest) (task : ListedTask) : Prop :=
  (params.contextId = "" ∨ task.contextId = params.contextId) ∧
    (params.status = .unspecified ∨ task.state = params.status)

/-- What a request asks for, with the instants of the times. -/
def ListTasksRequest.Asks (params : ListTasksRequest) (task : ListedTask) : Prop :=
  params.Concerns task ∧
    ∀ after ∈ params.statusTimestampAfter, after.instant ≤ task.timestamp.instant

/-- Following the tokens to the end shows what was asked for, and the latest first. -/
def FollowsTime (tokens : PageTokens) (table : TaskTable) (params : ListTasksRequest) : Prop :=
  ∀ rows : Nat → List ListedTask, (∀ call, (rows call).Perm table.tasks) →
    ∀ limit, table.tasks.length < limit → ∃ pages : List ListTasksResponse,
      followPages tokens rows params limit 0 "" = .ok (pages, "") ∧
      (pages.flatMap ListTasksResponse.tasks).Pairwise
        (fun first second => second.timestamp.instant ≤ first.timestamp.instant) ∧
      ∀ task, task ∈ pages.flatMap ListTasksResponse.tasks ↔
        task ∈ table.tasks ∧ params.Asks task

/-- No time is another one cut to a coarser unit: not the time asked for and the one of
a task it is compared with, and not the times of two tasks to list. -/
def Unambiguous (table : TaskTable) (params : ListTasksRequest) : Prop :=
  (∀ after ∈ params.statusTimestampAfter, ∀ task ∈ table.tasks,
    params.Concerns task →
      ¬after.CutFrom task.timestamp ∧ ¬task.timestamp.CutFrom after) ∧
  ∀ first ∈ table.tasks, params.Asks first → ∀ second ∈ table.tasks, params.Asks second →
    ¬first.timestamp.CutFrom second.timestamp

/-- Where neither is cut from the other, texts are ordered like instants. -/
theorem text_le_iff {first second : Timestamp} (hfirst : ¬first.CutFrom second)
    (hsecond : ¬second.CutFrom first) :
    first.toJsonString ≤ second.toJsonString ↔ first.instant ≤ second.instant := by
  rw [← not_lt, Timestamp.toJsonString_lt_iff, ← Int.not_lt]
  simp [hfirst, hsecond]

/-- A timestamp cut from another prints as the greater text. -/
theorem text_le_of_cut {first second : Timestamp} (hcut : first.CutFrom second) :
    second.toJsonString ≤ first.toJsonString ∧ ¬first.toJsonString ≤ second.toJsonString := by
  have hlt : second.toJsonString < first.toJsonString :=
    Timestamp.toJsonString_lt_iff.mpr (Or.inr hcut)
  exact ⟨le_of_lt hlt, not_le_of_gt hlt⟩

theorem selects_iff {task : ListedTask} : params.selects task = true ↔
    params.Concerns task ∧ ∀ after ∈ params.statusTimestampAfter,
      after.toJsonString ≤ task.timestamp.toJsonString := by
  simp only [ListTasksRequest.selects, ListTasksRequest.Concerns, Bool.and_eq_true,
    Bool.or_eq_true, beq_iff_eq, Option.all_eq_true, decide_eq_true_eq, Option.mem_def]

/-- The filter is right exactly when the time asked for is never confused. -/
theorem selects_eq_asks_iff :
    (∀ task ∈ table.tasks, (params.selects task = true ↔ params.Asks task)) ↔
      ∀ after ∈ params.statusTimestampAfter, ∀ task ∈ table.tasks,
        params.Concerns task →
          ¬after.CutFrom task.timestamp ∧ ¬task.timestamp.CutFrom after := by
  constructor
  · intro hright after hafter task htask hcandidate
    have hsame := hright task htask
    rw [selects_iff, ListTasksRequest.Asks, and_iff_right hcandidate,
      and_iff_right hcandidate] at hsame
    have honly {other : Timestamp} (hother : other ∈ params.statusTimestampAfter) :
        other = after := Option.mem_unique hother hafter
    constructor
    · intro hcut
      refine (text_le_of_cut hcut).2 (hsame.mpr (fun other hother => ?_) after hafter)
      rw [honly hother]
      exact Int.le_of_lt hcut.instant_lt
    · intro hcut
      refine Int.not_le.mpr hcut.instant_lt (hsame.mp (fun other hother => ?_) after hafter)
      rw [honly hother]
      exact (text_le_of_cut hcut).1
  · intro hclear task htask
    rw [selects_iff, ListTasksRequest.Asks]
    refine and_congr_right fun hcandidate => forall₂_congr fun after hafter => ?_
    obtain ⟨hfirst, hsecond⟩ := hclear after hafter task htask hcandidate
    exact text_le_iff hfirst hsecond

/-- The selection is in descending order of the texts. -/
theorem selection_text_pairwise : (table.selection params).Pairwise fun first second =>
    second.timestamp.toJsonString ≤ first.timestamp.toJsonString := by
  refine table.selection_pairwise.imp fun {first second} hkey => ?_
  rw [← not_lt, ListedTask.key_lt_iff, not_or] at hkey
  exact not_lt.mp hkey.1

/-- Tasks sorted by their texts are sorted by their times exactly when no two of the
times are confused. -/
theorem pairwise_instant_iff :
    (table.selection params).Pairwise
        (fun first second => second.timestamp.instant ≤ first.timestamp.instant) ↔
      ∀ first ∈ table.selection params, ∀ second ∈ table.selection params,
        ¬first.timestamp.CutFrom second.timestamp := by
  constructor
  · intro hsorted first hfirst second hsecond
    have hapart : (table.selection params).Pairwise fun first second =>
        ¬first.timestamp.CutFrom second.timestamp ∧
          ¬second.timestamp.CutFrom first.timestamp := by
      refine (hsorted.and selection_text_pairwise).imp fun {first second} hboth => ⟨?_, ?_⟩
      · exact fun hcut => Int.not_le.mpr hcut.instant_lt hboth.1
      · exact fun hcut => (text_le_of_cut hcut).2 hboth.2
    have hself (task : ListedTask) : ¬task.timestamp.CutFrom task.timestamp :=
      fun hcut => Int.lt_irrefl _ hcut.instant_lt
    exact (List.Pairwise.forall_of_forall_of_flip (fun task _ => ⟨hself task, hself task⟩) hapart
      (hapart.imp And.symm) hfirst hsecond).1
  · intro hclear
    refine selection_text_pairwise.imp_of_mem fun {first second} hfirst hsecond htext => ?_
    exact (text_le_iff (hclear second hsecond first hfirst)
      (hclear first hfirst second hsecond)).mp htext

theorem length_selection_le : (table.selection params).length ≤ table.tasks.length := by
  rw [TaskTable.selection, sortTasks, List.length_insertionSort]
  exact List.length_filter_le _ _

/-- A listing follows the times exactly when the texts confuse none of them. -/
theorem listTasks_follows_time_iff (tokens : PageTokens) (table : TaskTable)
    (params : ListTasksRequest)
    (hundo : ∀ task ∈ table.tasks, tokens.decode (tokens.encode task.id) = .ok task.id)
    (htoken : ∀ task ∈ table.tasks, tokens.encode task.id ≠ "") :
    FollowsTime tokens table params ↔ Unambiguous table params := by
  obtain ⟨pages, htasks, _, hfollow⟩ := @follow_selection tokens table params hundo htoken
  constructor
  · intro hright
    obtain ⟨shown, hshown, hsorted, hmem⟩ := hright (fun _ => table.tasks)
      (fun _ => List.Perm.refl _) (table.tasks.length + 1) (Nat.lt_succ_self _)
    rw [hfollow _ (fun _ => List.Perm.refl _) _ (Nat.lt_succ_of_le length_selection_le)] at hshown
    obtain rfl : pages = shown := congrArg Prod.fst (Except.ok.inj hshown)
    rw [htasks] at hsorted hmem
    refine ⟨selects_eq_asks_iff.mp fun task htask => ?_, ?_⟩
    · have hboth := hmem task
      rwa [TaskTable.mem_selection, and_iff_right htask, and_iff_right htask] at hboth
    · intro first hfirst hasks second hsecond hasks'
      exact pairwise_instant_iff.mp hsorted first ((hmem first).mpr ⟨hfirst, hasks⟩)
        second ((hmem second).mpr ⟨hsecond, hasks'⟩)
  · rintro ⟨hfilter, hapart⟩ rows hrows limit hlimit
    refine ⟨pages, hfollow rows hrows limit (Nat.lt_of_le_of_lt length_selection_le hlimit), ?_⟩
    rw [htasks]
    have hmem (task : ListedTask) : task ∈ table.selection params ↔
        task ∈ table.tasks ∧ params.Asks task := by
      rw [TaskTable.mem_selection]
      exact and_congr_right fun htask => selects_eq_asks_iff.mpr hfilter task htask
    refine ⟨pairwise_instant_iff.mpr fun first hfirst second hsecond => ?_, hmem⟩
    obtain ⟨hfirst, hasks⟩ := (hmem first).mp hfirst
    obtain ⟨hsecond, hasks'⟩ := (hmem second).mp hsecond
    exact hapart first hfirst hasks second hsecond hasks'

theorem follows_time_of_samples :
    (∀ task ∈ sampleTable.tasks,
      sampleTokens.decode (sampleTokens.encode task.id) = .ok task.id) ∧
    (∀ task ∈ sampleTable.tasks, sampleTokens.encode task.id ≠ "") ∧
    (FollowsTime sampleTokens sampleTable { status := .completed } ↔
      Unambiguous sampleTable { status := .completed }) :=
  ⟨by decide, by decide, listTasks_follows_time_iff sampleTokens sampleTable
    { status := .completed } (by decide) (by decide)⟩

/-- A task of a full second is listed before one that is 21 milliseconds later. -/
theorem earlier_listed_first : ¬FollowsTime sampleTokens sampleTable { } := by
  intro hright
  obtain ⟨pages, hpages, hsorted, _⟩ := hright (fun _ => sampleTable.tasks)
    (fun _ => List.Perm.refl _) 4 (by decide)
  have hshown : followPages sampleTokens (fun _ => sampleTable.tasks) { } 4 0 "" =
      .ok ([⟨[⟨"one", "", .working, ⟨20, 0, by decide, by decide⟩⟩,
        ⟨"two", "", .working, ⟨20, 21000000, by decide, by decide⟩⟩,
        ⟨"three", "", .completed, ⟨19, 0, by decide, by decide⟩⟩], 3, 50, ""⟩], "") := by
    decide +kernel
  rw [hshown] at hpages
  obtain rfl := congrArg Prod.fst (Except.ok.inj hpages)
  exact absurd hsorted (by decide)

end Times

end Aidlc
