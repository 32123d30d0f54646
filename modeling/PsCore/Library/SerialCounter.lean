import Mathlib.Data.List.Basic

/-!
Serial numbers that transactions take for keys. A transaction that has taken a number for a key keeps the others
away from the key until it ends; what it has taken is issued when it is committed and forgotten when it is not.
-/

namespace SerialCounter

variable {Key : Type} [DecidableEq Key]

structure Book (Key : Type) where
  issued : List (Key × Nat)
  pending : List (List (Key × Nat))

def serials (key : Key) (entries : List (Key × Nat)) : List Nat :=
  (entries.filter (·.1 = key)).map (·.2)

def Book.isHeld (book : Book Key) (transaction : Nat) (key : Key) : Bool :=
  (book.pending.eraseIdx transaction).any fun own => own.any (·.1 = key)

/-- The numbers issued for a key run from one on, and those of the transaction that holds it go on from there. -/
structure Gapless (book : Book Key) : Prop where
  issued : ∀ key, serials key book.issued = List.range' 1 (serials key book.issued).length
  pending : ∀ own ∈ book.pending, ∀ key,
    serials key own = List.range' ((serials key book.issued).length + 1) (serials key own).length
  exclusive : ∀ (first second : Nat) (left right : List (Key × Nat)), first ≠ second →
    book.pending[first]? = some left → book.pending[second]? = some right →
    ∀ key, serials key left = [] ∨ serials key right = []

section

variable {book : Book Key} {key other : Key} {entries own : List (Key × Nat)} {transaction : Nat}

@[simp] theorem serials_nil : serials key [] = [] := rfl

@[simp] theorem serials_append (first later : List (Key × Nat)) :
    serials key (first ++ later) = serials key first ++ serials key later := by
  simp [serials]

@[simp] theorem serials_own (serial : Nat) : serials key [(key, serial)] = [serial] := by
  simp [serials]

theorem serials_other (differs : other ≠ key) (serial : Nat) : serials key [(other, serial)] = [] := by
  simp [serials, differs]

theorem serials_eq_nil : serials key entries = [] ↔ ∀ entry ∈ entries, entry.1 ≠ key := by
  simp [serials]

theorem mem_serials {serial : Nat} : serial ∈ serials key entries ↔ (key, serial) ∈ entries := by
  simp [serials]

theorem isHeld_false : book.isHeld transaction key = false ↔
    ∀ (position : Nat) (own : List (Key × Nat)), position ≠ transaction → book.pending[position]? = some own →
      serials key own = [] := by
  rw [Book.isHeld, List.any_eq_false]
  constructor
  · intro free position own differs found
    have member : own ∈ book.pending.eraseIdx transaction :=
      List.mem_eraseIdx_iff_getElem?.mpr ⟨position, differs, found⟩
    have absent := free own member
    simp only [List.any_eq_true, decide_eq_true_eq, not_exists, not_and] at absent
    exact serials_eq_nil.mpr absent
  · intro free own member
    obtain ⟨position, differs, found⟩ := List.mem_eraseIdx_iff_getElem?.mp member
    simp only [List.any_eq_true, decide_eq_true_eq, not_exists, not_and]
    exact serials_eq_nil.mp (free position own differs found)

theorem serials_take {first : Nat} (count : Nat)
    (contiguous : serials key own = List.range' first (serials key own).length) :
    serials key (own.take count) = List.range' first (serials key (own.take count)).length := by
  have split : serials key (own.take count) ++ serials key (own.drop count) = serials key own := by
    rw [← serials_append, List.take_append_drop]
  rw [contiguous, eq_comm, List.range'_eq_append_iff] at split
  obtain ⟨kept, -, eq, -⟩ := split
  rw [eq, List.length_range']

theorem serials_take_nil (count : Nat) (empty : serials key own = []) : serials key (own.take count) = [] := by
  rw [serials_eq_nil] at empty ⊢
  exact fun entry member => empty entry (List.mem_of_mem_take member)

theorem Gapless.replace (gapless : Gapless book) {later : List (Key × Nat)}
    (contiguous : ∀ key, serials key later =
      List.range' ((serials key book.issued).length + 1) (serials key later).length)
    (free : ∀ (position : Nat) (own : List (Key × Nat)), position ≠ transaction →
      book.pending[position]? = some own → ∀ key, serials key own = [] ∨ serials key later = []) :
    Gapless { book with pending := book.pending.set transaction later } where
  issued := gapless.issued
  pending := by
    intro own member
    rcases List.mem_or_eq_of_mem_set member with member | rfl
    · exact gapless.pending own member
    · exact contiguous
  exclusive := by
    intro first second left right differs foundLeft foundRight key
    rw [List.getElem?_set] at foundLeft foundRight
    split at foundLeft
    · rename_i isFirst
      subst isFirst
      rw [if_neg differs] at foundRight
      split at foundLeft
      · cases foundLeft
        exact (free second right (Ne.symm differs) foundRight key).symm
      · cases foundLeft
    · rename_i notFirst
      split at foundRight
      · rename_i isSecond
        subst isSecond
        split at foundRight
        · cases foundRight
          exact free first left differs foundLeft key
        · cases foundRight
      · exact gapless.exclusive first second left right differs foundLeft foundRight key

theorem Gapless.take (gapless : Gapless book) (found : book.pending[transaction]? = some own)
    (free : book.isHeld transaction key = false) :
    Gapless ⟨book.issued,
      book.pending.set transaction (own ++ [(key, (serials key (book.issued ++ own)).length + 1)])⟩ := by
  have contiguous := gapless.pending own (List.mem_of_getElem? found)
  refine gapless.replace (fun other => ?_) fun position left differs foundLeft other => ?_
  · by_cases isKey : key = other
    · subst isKey
      rw [serials_append, serials_own, List.length_append, List.length_singleton, List.range'_concat, ← contiguous key,
        serials_append, List.length_append, Nat.one_mul]
      congr 2
      omega
    · rw [serials_append, serials_other isKey, List.append_nil]
      exact contiguous other
  · by_cases isKey : key = other
    · subst isKey
      exact .inl (isHeld_false.mp free position left differs foundLeft)
    · rw [serials_append, serials_other isKey, List.append_nil]
      exact gapless.exclusive position transaction left own differs foundLeft found other

theorem Gapless.keep (gapless : Gapless book) (found : book.pending[transaction]? = some own) (count : Nat) :
    Gapless { book with pending := book.pending.set transaction (own.take count) } := by
  refine gapless.replace (fun key => ?_) fun position left differs foundLeft key => ?_
  · exact serials_take count (gapless.pending own (List.mem_of_getElem? found) key)
  · have apart := gapless.exclusive position transaction left own differs foundLeft found key
    exact apart.imp_right (serials_take_nil count)

theorem Gapless.commit (gapless : Gapless book) (found : book.pending[transaction]? = some own) :
    Gapless { issued := book.issued ++ own, pending := book.pending.set transaction [] } := by
  have contiguous := gapless.pending own (List.mem_of_getElem? found)
  have emptied : Gapless { book with pending := book.pending.set transaction [] } := gapless.keep found 0
  refine ⟨fun key => ?_, fun later member key => ?_, emptied.exclusive⟩
  · rw [serials_append, List.length_append, ← List.range'_append_1, ← gapless.issued key, Nat.add_comm 1,
      ← contiguous key]
  · obtain ⟨position, foundLater⟩ := List.getElem?_of_mem member
    have numbered := emptied.pending later member key
    rw [List.getElem?_set] at foundLater
    split at foundLater
    · split at foundLater <;> cases foundLater
      rfl
    · rename_i differs
      rcases gapless.exclusive transaction position own later differs found foundLater key with empty | empty
      · rw [serials_append, empty, List.append_nil]
        exact numbered
      · rw [empty]
        rfl

theorem gapless_empty (transactions : Nat) : Gapless (⟨[], List.replicate transactions []⟩ : Book Key) where
  issued := fun _ => rfl
  pending := by
    intro own member key
    rw [List.eq_of_mem_replicate member]
    rfl
  exclusive := by
    intro first second left right _ foundLeft _ key
    have member := List.mem_of_getElem? foundLeft
    rw [List.eq_of_mem_replicate member]
    exact .inl rfl

/-- No number is issued twice for a key. -/
theorem Gapless.nodup (gapless : Gapless book) : book.issued.Nodup := by
  have distinct : ∀ key, (serials key book.issued).Nodup := fun key => by
    rw [gapless.issued key]
    exact List.nodup_range'
  generalize book.issued = entries at distinct
  induction entries with
  | nil => exact .nil
  | cons entry rest ih =>
      have split (key : Key) : serials key (entry :: rest) = serials key [entry] ++ serials key rest :=
        serials_append [entry] rest
      refine List.nodup_cons.mpr ⟨fun member => ?_, ih fun key => ?_⟩
      · have twice := distinct entry.1
        rw [split, serials_own, List.singleton_append, List.nodup_cons] at twice
        exact twice.1 (mem_serials.mpr member)
      · have twice := distinct key
        rw [split] at twice
        exact (List.nodup_append.mp twice).2.1

end

/-! The rows that the counters are kept in: each transaction has the last numbers of its keys in rows of its own. -/

structure Table (Row Key : Type) where
  key : Row → Key
  value : Row → Nat

namespace Table

variable {Row : Type} (table : Table Row Key)

def rowOf (key : Key) (rows : List Row) : Option Row :=
  rows.find? fun row => decide (table.key row = key)

/-- The rows with those of the transaction in the place of the committed ones. -/
def overlaid (own rows : List Row) : List Row :=
  own ++ rows.filter fun row => (table.rowOf (table.key row) own).isNone

def saved (row : Row) (own : List Row) : List Row :=
  row :: own.filter fun other => decide (table.key other ≠ table.key row)

/-- The rows are those of the keys of `own`, with the last numbers. -/
def Counts (issued own : List (Key × Nat)) (rows : List Row) : Prop :=
  ∀ key, (table.rowOf key rows).map table.value =
    if serials key own = [] then none else some ((serials key issued).length + (serials key own).length)

variable {table} {key : Key} {rows ownRows : List Row} {issued own : List (Key × Nat)}

theorem rowOf_overlaid (key : Key) :
    table.rowOf key (table.overlaid ownRows rows) = (table.rowOf key ownRows).or (table.rowOf key rows) := by
  simp only [rowOf, overlaid, List.find?_append, List.find?_filter]
  cases own : ownRows.find? fun row => decide (table.key row = key) with
  | some row => rfl
  | none =>
      congr 1
      refine congrArg (fun accept => rows.find? accept) (funext fun row => ?_)
      by_cases isKey : table.key row = key
      · simp [isKey, own]
      · simp [isKey]

theorem rowOf_saved_other {row : Row} (differs : table.key row ≠ key) :
    table.rowOf key (table.saved row rows) = table.rowOf key rows := by
  simp only [rowOf, saved, List.find?_cons, List.find?_filter, differs, decide_false]
  refine congrArg (fun accept => rows.find? accept) (funext fun other => ?_)
  by_cases isKey : table.key other = key
  · simp [isKey, Ne.symm differs]
  · simp [isKey]

theorem rowOf_saved (row : Row) : table.rowOf (table.key row) (table.saved row rows) = some row := by
  simp [rowOf, saved]

theorem counts_nil : table.Counts issued [] [] := fun _ => rfl

theorem Counts.overlaid (counted : table.Counts issued own ownRows) (committed : table.Counts [] issued rows) :
    table.Counts [] (issued ++ own) (table.overlaid ownRows rows) := by
  intro key
  have mine := counted key
  have theirs := committed key
  rw [rowOf_overlaid, serials_append]
  cases ownRow : table.rowOf key ownRows with
  | some row =>
      rw [ownRow] at mine
      by_cases empty : serials key own = []
      · simp [empty] at mine
      · simpa [empty] using mine
  | none =>
      rw [ownRow] at mine
      by_cases empty : serials key own = []
      · simpa [empty] using theirs
      · simp [empty] at mine

theorem Counts.rowOf_none (counted : table.Counts issued own rows) (absent : table.rowOf key rows = none) :
    serials key own = [] := by
  have count := counted key
  rw [absent] at count
  by_contra taken
  simp [taken] at count

theorem Counts.take (counted : table.Counts issued own rows) (row : Row) (isKey : table.key row = key)
    (next : table.value row = (serials key (issued ++ own)).length + 1) :
    table.Counts issued (own ++ [(key, (serials key (issued ++ own)).length + 1)]) (table.saved row rows) := by
  intro other
  by_cases same : key = other
  · subst same
    subst isKey
    rw [rowOf_saved]
    simp [next, Nat.add_assoc]
  · have untouched : serials other (own ++ [(key, (serials key (issued ++ own)).length + 1)]) = serials other own := by
      rw [serials_append, serials_other same, List.append_nil]
    rw [untouched, rowOf_saved_other (isKey ▸ same)]
    exact counted other

theorem Counts.issues {more : List (Key × Nat)} (counted : table.Counts issued own rows)
    (apart : ∀ key, serials key more = [] ∨ serials key own = []) :
    table.Counts (issued ++ more) own rows := by
  intro key
  rw [counted key]
  rcases apart key with empty | empty
  · rw [serials_append, empty, List.append_nil]
  · simp [empty]

end Table

structure Transaction (Row Key : Type) where
  taken : List (Key × Nat)
  rows : List Row
  /-- How many numbers were taken, and the rows, where the transaction can go back to. -/
  savepoint : Option (Nat × List Row)

def Transaction.fresh {Row : Type} : Transaction Row Key where
  taken := []
  rows := []
  savepoint := none

structure Office (Row Key : Type) where
  issued : List (Key × Nat)
  rows : List Row
  transactions : List (Transaction Row Key)

namespace Office

variable {Row : Type}

def book (office : Office Row Key) : Book Key where
  issued := office.issued
  pending := office.transactions.map (·.taken)

structure Kept (table : Table Row Key) (office : Office Row Key) : Prop where
  gapless : Gapless office.book
  counters : table.Counts [] office.issued office.rows
  rows : ∀ transaction ∈ office.transactions, table.Counts office.issued transaction.taken transaction.rows
  savepoints : ∀ transaction ∈ office.transactions, ∀ count earlier, transaction.savepoint = some (count, earlier) →
    table.Counts office.issued (transaction.taken.take count) earlier

variable {table : Table Row Key} {office : Office Row Key} {key : Key} {position count : Nat}
  {transaction later : Transaction Row Key} {earlier : List Row} {row : Row}

omit [DecidableEq Key] in
theorem pending_found (found : office.transactions[position]? = some transaction) :
    office.book.pending[position]? = some transaction.taken := by
  simp [book, found]

omit [DecidableEq Key] in
theorem book_set : ({ office with transactions := office.transactions.set position later }).book =
    ⟨office.issued, office.book.pending.set position later.taken⟩ := by
  simp only [book, List.map_set]

theorem Kept.set (kept : office.Kept table)
    (gapless : Gapless ⟨office.issued, office.book.pending.set position later.taken⟩)
    (rows : table.Counts office.issued later.taken later.rows)
    (savepoint : ∀ count earlier, later.savepoint = some (count, earlier) →
      table.Counts office.issued (later.taken.take count) earlier) :
    ({ office with transactions := office.transactions.set position later }).Kept table := by
  refine ⟨?_, kept.counters, fun other member => ?_, fun other member => ?_⟩
  · rw [book_set]
    exact gapless
  · rcases List.mem_or_eq_of_mem_set member with member | rfl
    · exact kept.rows other member
    · exact rows
  · rcases List.mem_or_eq_of_mem_set member with member | rfl
    · exact kept.savepoints other member
    · exact savepoint

theorem Kept.releases (kept : office.Kept table) (found : office.transactions[position]? = some transaction)
    (taken : later.taken = transaction.taken) (rows : later.rows = transaction.rows)
    (savepoint : later.savepoint = none) :
    ({ office with transactions := office.transactions.set position later }).Kept table := by
  refine kept.set ?_ ?_ fun count earlier present => ?_
  · have same := kept.gapless.keep (pending_found found) transaction.taken.length
    rw [List.take_length] at same
    rw [taken]
    exact same
  · rw [taken, rows]
    exact kept.rows transaction (List.mem_of_getElem? found)
  · rw [savepoint] at present
    cases present

theorem Kept.goesBack (kept : office.Kept table) (found : office.transactions[position]? = some transaction)
    (present : transaction.savepoint = some (count, earlier)) (taken : later.taken = transaction.taken.take count)
    (rows : later.rows = earlier) (savepoint : later.savepoint = none) :
    ({ office with transactions := office.transactions.set position later }).Kept table := by
  refine kept.set ?_ ?_ fun otherCount other isPresent => ?_
  · rw [taken]
    exact kept.gapless.keep (pending_found found) count
  · rw [taken, rows]
    exact kept.savepoints transaction (List.mem_of_getElem? found) count earlier present
  · rw [savepoint] at isPresent
    cases isPresent

theorem Kept.discards (kept : office.Kept table) (found : office.transactions[position]? = some transaction) :
    ({ office with transactions := office.transactions.set position .fresh }).Kept table := by
  refine kept.set ?_ Table.counts_nil fun count earlier present => ?_
  · exact kept.gapless.keep (pending_found found) 0
  · cases present

theorem Kept.takes (kept : office.Kept table) (found : office.transactions[position]? = some transaction)
    (free : ∀ other ∈ office.transactions.eraseIdx position, table.rowOf key other.rows = none)
    (isKey : table.key row = key)
    (next : table.value row = (serials key (office.issued ++ transaction.taken)).length + 1)
    (taken : later.taken = transaction.taken ++ [(key, table.value row)])
    (rows : later.rows = table.saved row transaction.rows)
    (savepoint : later.savepoint = some (transaction.taken.length, transaction.rows)) :
    ({ office with transactions := office.transactions.set position later }).Kept table := by
  have counted := kept.rows transaction (List.mem_of_getElem? found)
  have unheld : office.book.isHeld position key = false := by
    rw [isHeld_false]
    intro other own differs foundOwn
    obtain ⟨holder, foundHolder, rfl⟩ : ∃ holder, office.transactions[other]? = some holder ∧ holder.taken = own := by
      simpa [book] using foundOwn
    have member := List.mem_eraseIdx_iff_getElem?.mpr ⟨other, differs, foundHolder⟩
    exact (kept.rows holder (List.mem_of_getElem? foundHolder)).rowOf_none (free holder member)
  refine kept.set ?_ ?_ fun count earlier present => ?_
  · rw [taken, next]
    exact kept.gapless.take (pending_found found) unheld
  · rw [taken, rows, next]
    exact counted.take row isKey next
  · rw [savepoint, Option.some.injEq, Prod.mk.injEq] at present
    obtain ⟨rfl, rfl⟩ := present
    rw [taken, List.take_left]
    exact counted

theorem Kept.commits (kept : office.Kept table) (found : office.transactions[position]? = some transaction) :
    Kept table {
      issued := office.issued ++ transaction.taken
      rows := table.overlaid transaction.rows office.rows
      transactions := office.transactions.set position .fresh } := by
  have counted := kept.rows transaction (List.mem_of_getElem? found)
  have pending : (office.transactions.set position .fresh).map (·.taken) = office.book.pending.set position [] := by
    rw [List.map_set]
    rfl
  -- What is committed is of none of the keys that the others have.
  have others : ∀ other ∈ office.transactions.set position .fresh, other = .fresh ∨ other ∈ office.transactions ∧
      ∀ key, serials key transaction.taken = [] ∨ serials key other.taken = [] := by
    intro other member
    obtain ⟨otherPosition, foundOther⟩ := List.getElem?_of_mem member
    rw [List.getElem?_set] at foundOther
    split at foundOther
    · split at foundOther <;> cases foundOther
      exact .inl rfl
    · rename_i differs
      refine .inr ⟨List.mem_of_getElem? foundOther, ?_⟩
      exact kept.gapless.exclusive position otherPosition _ _ differs (pending_found found) (pending_found foundOther)
  refine ⟨?_, counted.overlaid kept.counters, fun other member => ?_, fun other member count earlier present => ?_⟩
  · rw [book, pending]
    exact kept.gapless.commit (pending_found found)
  · rcases others other member with rfl | ⟨isOther, apart⟩
    · exact Table.counts_nil
    · exact (kept.rows other isOther).issues apart
  · rcases others other member with rfl | ⟨isOther, apart⟩
    · cases present
    · refine (kept.savepoints other isOther count earlier present).issues fun key => ?_
      exact (apart key).imp_right (serials_take_nil count)

theorem kept_empty (table : Table Row Key) (transactions : Nat) :
    Kept table ⟨[], [], List.replicate transactions .fresh⟩ := by
  refine ⟨?_, Table.counts_nil, fun transaction member => ?_, fun transaction member count earlier present => ?_⟩
  · rw [book, List.map_replicate]
    exact gapless_empty transactions
  · rw [List.eq_of_mem_replicate member]
    exact Table.counts_nil
  · rw [List.eq_of_mem_replicate member] at present
    cases present

end Office

end SerialCounter
