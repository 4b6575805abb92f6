import Mathlib.Data.List.Perm.Subperm
import TableQuery.Proofs.Csv.LoadedTables

namespace TableQuery.Csv

section Numbered

variable {base : String}

theorem toList_numbered (n : Nat) :
    (numbered base n).toList = base.toList ++ '_' :: Nat.toDigits 10 n := by
  simp [numbered, Nat.toList_repr]

theorem numbered_inj {m n : Nat} (h : numbered base m = numbered base n) : m = n := by
  have hdigits : Nat.toDigits 10 m = Nat.toDigits 10 n := by
    simpa [toList_numbered] using congrArg String.toList h
  rw [← Nat.ofDigitChars_ten_toDigits (n := m), hdigits, Nat.ofDigitChars_ten_toDigits]

theorem numbered_ne_empty (n : Nat) : numbered base n ≠ "" := by
  intro h
  have hchars := congrArg String.toList h
  simp [toList_numbered] at hchars

theorem le_length_of_taken {taken : List String} {start count : Nat}
    (h : ∀ n, start ≤ n → n < start + count → numbered base n ∈ taken) : count ≤ taken.length := by
  have hnodup : ((List.range' start count).map (numbered base)).Nodup :=
    List.Nodup.map (fun _ _ => numbered_inj) List.nodup_range'
  have hsubset : (List.range' start count).map (numbered base) ⊆ taken := by
    intro name hname
    obtain ⟨n, hn, rfl⟩ := List.mem_map.mp hname
    obtain ⟨hle, hlt⟩ := List.mem_range'_1.mp hn
    exact h n hle hlt
  simpa using (List.subperm_of_subset hnodup hsubset).length_le

end Numbered

section Search

variable (taken : List String) (base : String)

/-- The search passes taken names only. It stops at a new one, unless it runs out of steps. -/
theorem exists_freshNumbered (steps start : Nat) :
    ∃ n, freshNumbered taken base steps start = numbered base n ∧ start ≤ n ∧
      (∀ k, start ≤ k → k < n → numbered base k ∈ taken) ∧
      (numbered base n ∉ taken ∨ n = start + steps) := by
  induction steps generalizing start with
  | zero => exact ⟨start, rfl, Nat.le_refl start, fun k hk hk' => by omega, .inr rfl⟩
  | succ steps ih =>
      rw [freshNumbered]
      by_cases hstart : numbered base start ∈ taken
      · obtain ⟨n, hn, hle, hpassed, hend⟩ := ih (start + 1)
        refine ⟨n, by simp [hstart, hn], by omega, fun k hk hk' => ?_, hend.imp_right (by omega)⟩
        obtain rfl | hlt := Nat.eq_or_lt_of_le hk
        · exact hstart
        · exact hpassed k hlt hk'
      · exact ⟨start, by simp [hstart], Nat.le_refl start, fun k hk hk' => by omega, .inl hstart⟩

theorem exists_new_freshNumbered :
    ∃ n, freshNumbered taken base taken.length 2 = numbered base n ∧ 2 ≤ n ∧
      (∀ k, 2 ≤ k → k < n → numbered base k ∈ taken) ∧ numbered base n ∉ taken := by
  obtain ⟨n, hn, hle, hpassed, hnew | hend⟩ := exists_freshNumbered taken base taken.length 2
  · exact ⟨n, hn, hle, hpassed, hnew⟩
  · refine ⟨n, hn, hle, hpassed, fun htaken => ?_⟩
    have hall : ∀ k, 2 ≤ k → k < 2 + (taken.length + 1) → numbered base k ∈ taken := by
      intro k hk hk'
      obtain rfl | hlt : k = n ∨ k < n := by omega
      · exact htaken
      · exact hpassed k hk hlt
    have hcount := le_length_of_taken hall
    omega

end Search

section Keys

variable {α : Type} (key : String → α)

/-- The base alone or, where its key is taken, with the least number from 2 on that has a new
one. -/
inductive FirstNew (taken : List String) (base : String) : String → Prop
  | bare (hnew : key base ∉ taken.map key) : FirstNew taken base base
  | counted {n : Nat} (htaken : key base ∈ taken.map key) (hn : 2 ≤ n)
      (hpassed : ∀ k, 2 ≤ k → k < n → key (numbered base k) ∈ taken.map key)
      (hnew : key (numbered base n) ∉ taken.map key) : FirstNew taken base (numbered base n)

/-- Each header has a name of its own, found from left to right with names told apart by their
keys. -/
structure Naming (headers names : List String) : Prop where
  length : names.length = headers.length
  firstNew {i : Nat} {header name : String} : headers[i]? = some header → names[i]? = some name →
    FirstNew key (names.take i) (baseName i header) name

variable {key} {taken headers names : List String} {base name : String}

theorem FirstNew.new (h : FirstNew key taken base name) : key name ∉ taken.map key := by
  cases h with
  | bare hnew => exact hnew
  | counted _ _ _ hnew => exact hnew

/-- A coarser key changes nothing as long as it finds the name new. -/
theorem FirstNew.coarser (h : FirstNew id taken base name) (hnew : key name ∉ taken.map key) :
    FirstNew key taken base name := by
  have hkey {other : String} (ho : other ∈ taken.map id) : key other ∈ taken.map key :=
    List.mem_map_of_mem (by simpa using ho)
  cases h with
  | bare => exact .bare hnew
  | counted htaken hn hpassed =>
      exact .counted (hkey htaken) hn (fun k hk hk' => hkey (hpassed k hk hk')) hnew

theorem Naming.nodup (h : Naming key headers names) : (names.map key).Nodup := by
  rw [List.Nodup, List.pairwise_iff_getElem]
  intro i j hi hj hij he
  rw [List.length_map] at hi hj
  obtain ⟨header, hheader⟩ : ∃ header, headers[j]? = some header :=
    ⟨_, List.getElem?_eq_getElem (h.length ▸ hj)⟩
  refine (h.firstNew hheader (List.getElem?_eq_getElem hj)).new ?_
  rw [List.getElem_map, List.getElem_map] at he
  rw [← he]
  exact List.mem_map_of_mem (List.mem_take_iff_getElem.mpr ⟨i, by omega, rfl⟩)

/-- Another key gives the same names exactly if it tells them apart. -/
theorem Naming.nodup_iff (h : Naming id headers names) :
    (names.map key).Nodup ↔ Naming key headers names := by
  constructor
  · intro hnodup
    refine ⟨h.length, fun {i header name} hheader hname => ?_⟩
    refine (h.firstNew hheader hname).coarser fun hmem => ?_
    obtain ⟨other, ho, he⟩ := List.mem_map.mp hmem
    obtain ⟨k, hk, rfl⟩ := List.mem_take_iff_getElem.mp ho
    obtain ⟨hi, rfl⟩ := List.getElem?_eq_some_iff.mp hname
    have hsame := List.inj_on_of_nodup_map hnodup (List.getElem_mem _) (List.getElem_mem hi) he
    have hki : k = i := (hnodup.of_map key).getElem_inj_iff.mp hsame
    omega
  · exact Naming.nodup

end Keys

section Headers

variable {taken headers : List String} {base name : String}

theorem firstNew_freshName : FirstNew id taken base (freshName taken base) := by
  rw [freshName]
  by_cases hbase : base ∈ taken
  · obtain ⟨n, hn, hle, hpassed, hnew⟩ := exists_new_freshNumbered taken base
    rw [if_pos (by simpa using hbase), hn]
    exact .counted (by simpa using hbase) hle (by simpa using hpassed) (by simpa using hnew)
  · rw [if_neg (by simpa using hbase)]
    exact .bare (by simpa using hbase)

theorem firstNew_columnNamesFrom {i index : Nat} {header : String}
    (hheader : headers[i]? = some header)
    (hname : (columnNamesFrom index taken headers)[i]? = some name) :
    FirstNew id (taken ++ (columnNamesFrom index taken headers).take i)
      (baseName (index + i) header) name := by
  induction headers generalizing index taken i with
  | nil => cases hheader
  | cons first rest ih =>
      cases i with
      | zero =>
          obtain rfl := Option.some.inj hheader
          obtain rfl := Option.some.inj hname
          simpa using firstNew_freshName
      | succ i =>
          have hname : (columnNamesFrom (index + 1)
            (taken ++ [freshName taken (baseName index first)]) rest)[i]? = some name := hname
          have hrest := ih hheader hname
          simpa [columnNamesFrom, Nat.add_assoc, Nat.add_comm 1] using hrest

theorem naming_columnNames (headers : List String) : Naming id headers (columnNames headers) where
  length := length_columnNames headers
  firstNew {i header name} hheader hname := by
    simpa [columnNames] using firstNew_columnNamesFrom hheader hname

theorem baseName_ne_empty (index : Nat) (header : String) : baseName index header ≠ "" := by
  rw [baseName]
  split
  · intro h
    have hchars := congrArg String.toList h
    simp at hchars
  · next hfilled => simpa using hfilled

theorem FirstNew.ne_empty (h : FirstNew id taken base name) (hbase : base ≠ "") : name ≠ "" := by
  cases h with
  | bare => exact hbase
  | counted => exact numbered_ne_empty _

theorem ne_empty_of_mem_columnNames (h : name ∈ columnNames headers) : name ≠ "" := by
  obtain ⟨i, hi, rfl⟩ := List.getElem_of_mem h
  have hheader : i < headers.length := length_columnNames headers ▸ hi
  exact ((naming_columnNames headers).firstNew (List.getElem?_eq_getElem hheader)
    (List.getElem?_eq_getElem hi)).ne_empty (baseName_ne_empty _ _)

theorem checkNames_ne_duplicate {t : Store.StoredTable} {seen : List (List Char)}
    {names : List String} (hnames : (names.map Store.upper).Nodup)
    (hseen : ∀ name ∈ names, Store.upper name ∉ seen) (name : String) :
    checkNames t seen names ≠ .error (.duplicateColumn name) := by
  fun_induction checkNames t seen names with
  | case1 | case2 | case3 => simp
  | case4 seen first rest hz hroom hnew =>
      exact absurd (by simpa using hnew) (hseen first List.mem_cons_self)
  | case5 seen first rest hz hroom hnew ih =>
      rw [List.map_cons, List.nodup_cons] at hnames
      apply ih hnames.2
      intro other ho hm
      rcases List.mem_cons.mp hm with he | hm
      · exact hnames.1 (he ▸ List.mem_map_of_mem ho)
      · exact hseen other (List.mem_cons_of_mem first ho) hm

end Headers

/-- The engine tells these names apart. It disregards the case of ASCII letters. -/
def Apart (names : List String) : Prop := (names.map Store.upper).Nodup

instance (names : List String) : Decidable (Apart names) :=
  inferInstanceAs (Decidable (List.Nodup _))

/-- Every header gives its column a name of its own, which is its text or the text with a number.
The engine makes columns of these names exactly if a naming that disregards the case of letters
gives the same ones. -/
theorem column_names_differ_iff (headers : List String) :
    Naming id headers (columnNames headers) ∧ (∀ name ∈ columnNames headers, name ≠ "") ∧
      (columnNames headers).Nodup ∧
      (Apart (columnNames headers) ↔ Naming Store.upper headers (columnNames headers)) ∧
      ∀ (table : String) (records : List (List String)),
        let made := checkTable (tableOf table headers records)
        (Apart (columnNames headers) → ∀ name, made ≠ .error (.duplicateColumn name)) ∧
          (¬Apart (columnNames headers) → made ≠ .ok ()) := by
  have hnaming := naming_columnNames headers
  refine ⟨hnaming, fun name => ne_empty_of_mem_columnNames, by simpa using hnaming.nodup,
    hnaming.nodup_iff, fun table records => ?_⟩
  constructor
  · intro hapart name
    rw [checkTable, columnNames_tableOf]
    split
    · simp
    · split
      · simp
      · exact checkNames_ne_duplicate hapart (by simp) name
  · intro hcollide hmade
    have hmade := nodup_upper_of_checkTable hmade
    rw [columnNames_tableOf] at hmade
    exact hcollide hmade

/-- Two names that the engine takes for one. -/
theorem id_names_collide : columnNames ["id", "ID"] = ["id", "ID"] ∧
    ¬Apart (columnNames ["id", "ID"]) ∧
    load (folderOf "orders.csv" "id,ID\n1,2\n") "orders.csv" = .error (.duplicateColumn "ID") := by
  have hnames : columnNames ["id", "ID"] = ["id", "ID"] := by decide +kernel
  have hholds : Holds (folderOf "orders.csv" "id,ID\n1,2\n") "orders.csv" ["id", "ID"]
      [["1", "2"]] := ⟨_, rfl, by decide +kernel, by decide +kernel⟩
  have hz : hasNul "id" = false ∧ hasNul "ID" = false := by decide +kernel
  have hsame : Store.upper "ID" = Store.upper "id" := by decide +kernel
  have hmade : checkTable (tableOf (tableName "orders.csv") ["id", "ID"] [["1", "2"]]) =
      .error (.duplicateColumn "ID") := by
    rw [checkTable, columnNames_tableOf, hnames, name_tableOf, if_neg (by decide +kernel),
      if_neg (by decide +kernel)]
    simp [checkNames, hz, hsame, greatestColumns]
  refine ⟨hnames, by decide +kernel, ?_⟩
  rw [hholds.load_eq, hmade]
  rfl

end TableQuery.Csv
