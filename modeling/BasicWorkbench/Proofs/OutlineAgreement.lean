import BasicWorkbench.Proofs.SubroutineOutlines

namespace BasicWorkbench

/-- The name of a symbol and the lines on which it starts and ends. -/
def Symbol.extent (s : Symbol) : Text × Nat × Nat := (s.name, s.span.start.line, s.span.stop.line)

namespace SubroutineBlock

/-- The name of a block and the lines of its opener and its closer. -/
def extent (b : SubroutineBlock) : Text × Nat × Nat := (b.name, b.opener.line, b.last)

/-- Nothing but blanks stands behind the opener and behind the closer, and the name starts with a letter. -/
def StandsAlone (b : SubroutineBlock) : Prop :=
  opensAlone b.opener b.opening = true ∧ closesAlone b.closing = true

/-- The block has its opener and its closer on the lines that it names. -/
structure On (lines : List Text) (b : SubroutineBlock) : Prop where
  opening : lines[b.opener.line]? = some b.opening
  opener : openerOn? .subroutine b.opener.line b.opening = some b.opener
  closing : lines[b.last]? = some b.closing

/-- The line of a block's opener tells the opener, and the line of its closer the closer. -/
theorem StandsAlone.transfer {lines : List Text} {a b c : SubroutineBlock} (ha : a.On lines) (hb : b.On lines)
    (hc : c.On lines) (opens : opensAlone a.opener a.opening = true) (closes : closesAlone c.closing = true)
    (first : a.opener.line = b.opener.line) (last : c.last = b.last) : b.StandsAlone := by
  have opening : a.opening = b.opening := by
    have same := ha.opening
    rw [first, hb.opening] at same
    exact (Option.some.inj same).symm
  have opener : a.opener = b.opener := by
    have same := ha.opener
    rw [first, opening, hb.opener] at same
    exact (Option.some.inj same).symm
  have closing : c.closing = b.closing := by
    have same := hc.closing
    rw [last, hb.closing] at same
    exact (Option.some.inj same).symm
  exact ⟨opener ▸ opening ▸ opens, closing ▸ closes⟩

end SubroutineBlock

theorem mem_pairedFrom {all lines : List Text} {opened : Option (BlockOpener × Text)} {number : Nat}
    {blocks : List SubroutineBlock} (paired : pairedFrom opened number lines = some blocks)
    (part : all.drop number = lines)
    (waiting : ∀ w ∈ opened, all[w.1.line]? = some w.2 ∧ openerOn? .subroutine w.1.line w.2 = some w.1) :
    ∀ b ∈ blocks, b.On all := by
  induction lines generalizing opened number blocks with
  | nil =>
    cases opened with
    | some w => simp [pairedFrom] at paired
    | none =>
      obtain rfl : [] = blocks := by simpa [pairedFrom] using paired
      simp
  | cons line lines ih =>
    have here : all[number]? = some line := by
      rw [← List.head?_drop, part]
      rfl
    have rest : all.drop (number + 1) = lines := by
      rw [← List.tail_drop, part]
      rfl
    unfold pairedFrom at paired
    split at paired
    next closes =>
      cases opened with
      | none => simp at paired
      | some w =>
        obtain ⟨later, found, rfl⟩ := Option.map_eq_some_iff.mp paired
        intro b hb
        rcases List.mem_cons.mp hb with rfl | hb
        · obtain ⟨opening, opener⟩ := waiting w rfl
          exact ⟨opening, opener, here⟩
        · exact ih found rest (by simp) b hb
    next closes =>
      split at paired
      next opener opens =>
        refine ih paired rest ?_
        intro w hw
        obtain rfl := Option.some.inj hw
        have place : opener.line = number := (openerOn?_eq_some opens).2.1
        subst place
        exact ⟨here, opens⟩
      next => simp at paired
      next => exact ih paired rest waiting

/-- The last of the blocks whose name has the lower-case form. -/
def lastNamed (key : Text) (blocks : List SubroutineBlock) : Option SubroutineBlock :=
  blocks.reverse.find? fun b => lower b.name = key

theorem lastNamed_eq_some {key : Text} {blocks : List SubroutineBlock} {b : SubroutineBlock}
    (h : lastNamed key blocks = some b) :
    lower b.name = key ∧ ∃ before after, blocks = before ++ b :: after ∧ ∀ c ∈ after, lower c.name ≠ key := by
  obtain ⟨named, after, before, split', others⟩ := List.find?_eq_some_iff_append.mp h
  refine ⟨by simpa using named, before.reverse, after.reverse, ?_, ?_⟩
  · rw [← List.reverse_reverse blocks, split']
    simp
  · intro c hc
    simpa using others c (List.mem_reverse.mp hc)

theorem mem_recorded {started : Option BlockOpener} {blocks : List SubroutineBlock}
    {r : BlockOpener × SubroutineBlock} (h : r ∈ recorded started blocks) :
    (started = some r.1 ∨ ∃ a ∈ blocks, a.opener = r.1 ∧ opensAlone a.opener a.opening = true) ∧
      r.2 ∈ blocks ∧ closesAlone r.2.closing = true := by
  induction blocks generalizing started with
  | nil => simp [recorded] at h
  | cons b blocks ih =>
    have origin : ∀ a, (if opensAlone b.opener b.opening then some b.opener else started) = some a →
        started = some a ∨ ∃ c ∈ b :: blocks, c.opener = a ∧ opensAlone c.opener c.opening = true := by
      intro a ha
      split at ha
      next opens =>
        refine .inr ⟨b, List.mem_cons_self, Option.some.inj ha, opens⟩
      next => exact .inl ha
    have lift : ∀ {a}, (∃ c ∈ blocks, c.opener = a ∧ opensAlone c.opener c.opening = true) →
        ∃ c ∈ b :: blocks, c.opener = a ∧ opensAlone c.opener c.opening = true := by
      intro a ⟨c, hc, spec⟩
      exact ⟨c, List.mem_cons_of_mem b hc, spec⟩
    unfold recorded at h
    dsimp only at h
    split at h
    next closes =>
      rcases List.mem_append.mp h with now | later
      · obtain ⟨a, ha, rfl⟩ := List.mem_map.mp now
        exact ⟨origin a (Option.mem_toList.mp ha), List.mem_cons_self, closes⟩
      · obtain ⟨none | opened, ended, closes⟩ := ih later
        · contradiction
        · exact ⟨.inr (lift opened), List.mem_cons_of_mem b ended, closes⟩
    next =>
      obtain ⟨before | opened, ended, closes⟩ := ih h
      · exact ⟨origin _ before, List.mem_cons_of_mem b ended, closes⟩
      · exact ⟨.inr (lift opened), List.mem_cons_of_mem b ended, closes⟩

/-- A block that stands alone is recorded with its own opener, whatever was started before. -/
theorem recorded_append_alone {b : SubroutineBlock} (alone : b.StandsAlone) (after : List SubroutineBlock)
    (started : Option BlockOpener) (before : List SubroutineBlock) :
    ∃ earlier, recorded started (before ++ b :: after) = earlier ++ (b.opener, b) :: recorded none after := by
  induction before generalizing started with
  | nil =>
    refine ⟨[], ?_⟩
    obtain ⟨opens, closes⟩ := alone
    rw [List.nil_append, recorded]
    simp [opens, closes]
  | cons c before ih =>
    rw [List.cons_append, recorded]
    split
    next =>
      obtain ⟨earlier, rest⟩ := ih none
      exact ⟨_ ++ earlier, by rw [rest, List.append_assoc]⟩
    next => exact ih _

def recordKey (r : BlockOpener × SubroutineBlock) : Text := lower r.1.start.name

def recordSymbol (r : BlockOpener × SubroutineBlock) : Symbol :=
  r.1.start.symbol r.1.line r.2.last r.2.closing

/-- The last record of a name counts. -/
theorem find?_foldl_addRecord (records : List (BlockOpener × SubroutineBlock)) (known : OrderedMap Symbol)
    (key : Text) :
    (records.foldl addRecord known).find? key =
      ((records.reverse.find? fun r => recordKey r = key).map recordSymbol).or (known.find? key) := by
  induction records generalizing known with
  | nil => rfl
  | cons r records ih =>
    rw [List.foldl_cons, ih, addRecord, OrderedMap.find?_insert, List.reverse_cons, List.find?_append]
    cases records.reverse.find? fun r => recordKey r = key with
    | some later => rfl
    | none =>
      by_cases named : recordKey r = key
      · have same : lower r.1.start.name = key := named
        simp [named, same, recordSymbol]
      · have other : ¬ lower r.1.start.name = key := named
        simp [named, other]

theorem nodup_keys_foldl_addRecord (records : List (BlockOpener × SubroutineBlock)) {known : OrderedMap Symbol}
    (once : known.keys.Nodup) : (records.foldl addRecord known).keys.Nodup := by
  induction records generalizing known with
  | nil => exact once
  | cons r records ih => exact ih (OrderedMap.nodup_keys_insert once _ _)

section Agreement

variable {lines : List Text} {blocks : List SubroutineBlock}

theorem subroutines_of_paired (paired : pairedSubroutines lines = some blocks) :
    (SymbolTable.empty.collect lines).knownSubroutines = (recorded none blocks).foldl addRecord [] :=
  collectFrom_subroutines paired SymbolTable.empty none

theorem find?_recorded (key : Text) (blocks : List SubroutineBlock) :
    ((recorded none blocks).foldl addRecord []).find? key =
      ((recorded none blocks).reverse.find? fun r => recordKey r = key).map recordSymbol := by
  rw [find?_foldl_addRecord]
  exact Option.or_none

theorem recordKey_of_mem {r : BlockOpener × SubroutineBlock} (h : r ∈ recorded none blocks) :
    ∃ a ∈ blocks, a.opener = r.1 ∧ opensAlone a.opener a.opening = true ∧ lower a.name = recordKey r := by
  obtain ⟨none | ⟨a, ha, opener, opens⟩, _⟩ := mem_recorded h
  · contradiction
  · refine ⟨a, ha, opener, opens, ?_⟩
    rw [recordKey, ← opener]
    rfl

/-- Where the last block of a name stands alone, the outline has it. -/
theorem extent_of_alone {key : Text} (alone : ∀ b ∈ lastNamed key blocks, b.StandsAlone) :
    (((recorded none blocks).foldl addRecord []).find? key).map Symbol.extent =
      (lastNamed key blocks).map SubroutineBlock.extent := by
  rw [find?_recorded]
  cases last : lastNamed key blocks with
  | none =>
    have unrecorded : ((recorded none blocks).reverse.find? fun r => recordKey r = key) = none := by
      rw [List.find?_eq_none]
      intro r hr named
      obtain ⟨a, ha, _, _, same⟩ := recordKey_of_mem (List.mem_reverse.mp hr)
      have absent := List.find?_eq_none.mp last a (List.mem_reverse.mpr ha)
      simp only [decide_eq_true_eq] at named absent
      exact absent (same.trans named)
    rw [unrecorded]
    rfl
  | some b =>
    obtain ⟨named, before, after, rfl, others⟩ := lastNamed_eq_some last
    obtain ⟨earlier, split'⟩ := recorded_append_alone (alone b last) after none before
    have later : ((recorded none after).reverse.find? fun r => recordKey r = key) = none := by
      rw [List.find?_eq_none]
      intro r hr named
      obtain ⟨a, ha, _, _, same⟩ := recordKey_of_mem (List.mem_reverse.mp hr)
      simp only [decide_eq_true_eq] at named
      exact others a ha (same.trans named)
    have here : recordKey (b.opener, b) = key := named
    have found : ((recorded none (before ++ b :: after)).reverse.find? fun r => recordKey r = key) =
        some (b.opener, b) := by
      rw [split', List.reverse_append, List.reverse_cons, List.find?_append, List.find?_append, later]
      simp [here]
    rw [found]
    rfl

/-- Where the outline has the last block of a name, that block stands alone. -/
theorem alone_of_extent (placed : ∀ b ∈ blocks, b.On lines) {key : Text} {b : SubroutineBlock}
    (last : lastNamed key blocks = some b)
    (agrees : (((recorded none blocks).foldl addRecord []).find? key).map Symbol.extent = some b.extent) :
    b.StandsAlone := by
  rw [find?_recorded, Option.map_map] at agrees
  obtain ⟨r, found, same⟩ := Option.map_eq_some_iff.mp agrees
  have mem : r ∈ recorded none blocks := List.mem_reverse.mp (List.mem_of_find?_eq_some found)
  obtain ⟨a, ha, opener, opens, _⟩ := recordKey_of_mem mem
  obtain ⟨_, ended, closes⟩ := mem_recorded mem
  have inside : b ∈ blocks := List.mem_reverse.mp (List.mem_of_find?_eq_some last)
  have places : (r.1.line, r.2.last) = (b.opener.line, b.last) := congrArg Prod.snd same
  obtain ⟨first, final⟩ := Prod.mk.inj places
  rw [← opener] at first
  -- The record may join the opener of one block and the end of another, but these are the lines of `b`.
  exact .transfer (placed a ha) (placed b inside) (placed r.2 ended) opens closes first final

/-- Outline and block check tell the same names, and the same lines for the last block of each name, exactly if
each of these blocks stands alone. In any case the outline has one entry for a name and makes none up: an entry
starts at an opener of its name and ends at a closer. -/
theorem outline_agrees_iff (paired : pairedSubroutines lines = some blocks) :
    let known := (SymbolTable.empty.collect lines).knownSubroutines
    known.keys.Nodup ∧
      ((∀ key, (known.find? key).map Symbol.extent = (lastNamed key blocks).map SubroutineBlock.extent) ↔
        ∀ key, ∀ b ∈ lastNamed key blocks, b.StandsAlone) ∧
      ∀ key s, known.find? key = some s →
        ∃ a ∈ blocks, ∃ b ∈ blocks, lower a.name = key ∧ s.extent = (a.name, a.opener.line, b.last) := by
  have placed : ∀ b ∈ blocks, b.On lines := mem_pairedFrom paired rfl (by simp)
  rw [subroutines_of_paired paired]
  refine ⟨nodup_keys_foldl_addRecord _ List.nodup_nil, ⟨?_, ?_⟩, ?_⟩
  · intro agrees key b last
    have here := agrees key
    rw [Option.mem_def.mp last] at here
    exact alone_of_extent placed last here
  · intro alone key
    exact extent_of_alone (alone key)
  · intro key s found
    rw [find?_recorded] at found
    obtain ⟨r, latest, rfl⟩ := Option.map_eq_some_iff.mp found
    have mem : r ∈ recorded none blocks := List.mem_reverse.mp (List.mem_of_find?_eq_some latest)
    obtain ⟨a, ha, opener, _, same⟩ := recordKey_of_mem mem
    obtain ⟨_, ended, _⟩ := mem_recorded mem
    have named : recordKey r = key := by simpa using List.find?_some latest
    refine ⟨a, ha, r.2, ended, same.trans named, ?_⟩
    rw [SubroutineBlock.name, opener]
    rfl

/-- Text behind the name of a subroutine hides it from the outline, although the block check takes it. -/
theorem outline_disagrees_behind_opener :
    let lines : List Text := ["Sub Foo ' greet", "EndSub"]
    let block : SubroutineBlock := ⟨⟨.subroutine, 0, 0, 7, some "Foo"⟩, "Sub Foo ' greet", 1, "EndSub"⟩
    pairedSubroutines lines = some [block] ∧
      ¬∀ key, ((SymbolTable.empty.collect lines).knownSubroutines.find? key).map Symbol.extent =
        (lastNamed key [block]).map SubroutineBlock.extent := by
  intro lines block
  have paired : pairedSubroutines lines = some [block] := by decide +kernel
  refine ⟨paired, fun agrees => ?_⟩
  have last : lastNamed "foo" [block] = some block := by decide +kernel
  have alone := (outline_agrees_iff paired).2.1.mp agrees "foo" block last
  have behind : opensAlone block.opener block.opening = false := by decide +kernel
  exact Bool.false_ne_true (behind.symm.trans alone.1)

end Agreement

end BasicWorkbench
