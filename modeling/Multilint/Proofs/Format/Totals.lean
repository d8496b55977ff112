import Multilint.Proofs.Format.Objects
import Multilint.Proofs.Run.Results
import Multilint.Proofs.Scope.Discovery
import Mathlib.Algebra.Ring.Nat
/-!
# The totals of a document

A document says in several places how much was found: in its own summary, in the summary of each tool, in the
number of issues listed, and in the counts by severity, file and code. The counts are kept label by label, and
one more label is one more in all of them (`Tally.countLabel`). The tools stand under their names, so the
totals agree with the tools listed where no name comes twice (`totals_document`), which is so in every run
(`document_adds_up`).
-/

namespace Multilint

namespace Document

open Json

variable {counts : List (String × ℕ)} {label name key : String} {n : ℕ}
variable {cs : List Column} {fs : List Finding} {c : Column}

/-! ## Counts of labels -/

/-- **Counts of labels that come to a number**: no label has two counts, and none has the count zero. -/
structure Tally (counts : List (String × ℕ)) (n : ℕ) : Prop where
  /-- Each label is counted once. -/
  labels : (counts.map Prod.fst).Nodup
  /-- It occurs. -/
  pos : ∀ e ∈ counts, 0 < e.2
  /-- The counts come to the number. -/
  sum : (counts.map Prod.snd).sum = n

theorem Tally.nil : Tally [] 0 :=
  ⟨List.nodup_nil, by simp, rfl⟩

/-- One more in the count of one label is one more in the sum. -/
theorem sum_raise (hlabels : (counts.map Prod.fst).Nodup) (hlabel : label ∈ counts.map Prod.fst) :
    ((counts.map fun e => if e.1 = label then (label, e.2 + 1) else e).map Prod.snd).sum =
      (counts.map Prod.snd).sum + 1 := by
  induction counts with
  | nil => cases hlabel
  | cons e counts ih =>
    rw [List.map_cons, List.nodup_cons] at hlabels
    rw [List.map_cons, List.mem_cons] at hlabel
    by_cases he : e.1 = label
    · -- no other count has this label
      have hrest : (counts.map fun e => if e.1 = label then (label, e.2 + 1) else e) = counts := by
        refine (List.map_congr_left fun d hd => if_neg ?_).trans (List.map_id counts)
        rintro rfl
        exact hlabels.1 (he ▸ List.mem_map_of_mem hd)
      rw [List.map_cons, if_pos he, hrest, List.map_cons, List.map_cons, List.sum_cons, List.sum_cons]
      omega
    · have hsum := ih hlabels.2 (hlabel.resolve_left (Ne.symm he))
      rw [List.map_cons, if_neg he, List.map_cons, List.map_cons, List.sum_cons, List.sum_cons, hsum]
      omega

/-- **A label that is counted** makes the counts come to one more. -/
theorem Tally.countLabel (h : Tally counts n) (label : String) :
    Tally (countLabel counts label) (n + 1) := by
  have hlisted : counts.any (·.1 = label) = true ↔ label ∈ counts.map Prod.fst := by simp
  rw [Document.countLabel]
  split
  · rename_i hany
    refine ⟨?_, ?_, (sum_raise h.labels (hlisted.1 hany)).trans (congrArg (· + 1) h.sum)⟩
    · have hfst : (counts.map fun e => if e.1 = label then (label, e.2 + 1) else e).map Prod.fst =
          counts.map Prod.fst := by
        rw [List.map_map]
        refine List.map_congr_left fun e _ => ?_
        by_cases he : e.1 = label
        · simp [he]
        · simp [he]
      rw [hfst]
      exact h.labels
    · intro e he
      obtain ⟨d, hd, rfl⟩ := List.mem_map.1 he
      split
      · exact Nat.succ_pos _
      · exact h.pos d hd
  · rename_i hany
    refine ⟨?_, ?_, ?_⟩
    · rw [List.map_append, List.nodup_append]
      refine ⟨h.labels, List.nodup_singleton label, fun a ha b hb => ?_⟩
      rintro rfl
      have hlabel : a = label := List.mem_singleton.1 hb
      exact hany (hlisted.2 (hlabel ▸ ha))
    · intro e he
      rcases List.mem_append.1 he with he | he
      · exact h.pos e he
      · rw [List.mem_singleton.1 he]
        exact Nat.one_pos
    · rw [List.map_append, List.sum_append, h.sum]
      rfl

/-- **The counts of records come to their number.** -/
theorem tally_countBy (key : String) (rs : List (List (String × Json))) :
    Tally (countBy key rs) rs.length := by
  have hfold : ∀ (ls : List String) {counts : List (String × ℕ)} {n : ℕ}, Tally counts n →
      Tally (ls.foldl Document.countLabel counts) (n + ls.length) := by
    intro ls
    induction ls with
    | nil => exact fun h => h
    | cons l ls ih =>
      intro counts n h
      have hrest := ih (h.countLabel l)
      rw [List.length_cons, Nat.add_comm ls.length, ← Nat.add_assoc]
      exact hrest
  have hall := hfold (rs.map (labelOf key)) .nil
  rw [List.length_map, Nat.zero_add] at hall
  exact hall

/-- Counts as they stand in a summary. -/
def countsObject (counts : List (String × ℕ)) : Json :=
  .object (counts.map fun e => (e.1, .nat e.2))

/-- Findings are counted by a column if there are some and their table has the column. -/
theorem any_objectOf : ((fs.map (objectOf cs)).any fun r => r.any (·.1 = c.key)) = true ↔
    0 < fs.length ∧ c ∈ cs := by
  have hobject : ∀ f, (objectOf cs f).any (·.1 = c.key) = true ↔ c ∈ cs := by
    intro f
    have hlisted : (objectOf cs f).any (·.1 = c.key) = true ↔ c.key ∈ (objectOf cs f).map Prod.fst := by
      simp
    rw [hlisted, ← isSome_member?_iff, isSome_member?_objectOf_iff]
    constructor
    · rintro ⟨d, hd, hkey⟩
      exact Column.key_injective hkey ▸ hd
    · exact fun hc => ⟨c, hc, rfl⟩
  rw [List.any_map, List.any_eq_true, List.length_pos_iff_exists_mem]
  constructor
  · rintro ⟨f, hf, hany⟩
    exact ⟨⟨f, hf⟩, (hobject f).1 hany⟩
  · rintro ⟨⟨f, hf⟩, hc⟩
    exact ⟨f, hf, (hobject f).2 hc⟩

/-- The counts of findings by a column stand under one name, where there are any. -/
theorem member?_countMember {k : String} :
    (object (countMember name c.key (fs.map (objectOf cs)))).member? k =
      if name = k then
        if 0 < fs.length ∧ c ∈ cs then some (countsObject (countBy c.key (fs.map (objectOf cs))))
        else none
      else none := by
  rw [countMember]
  split
  · rename_i hany
    rw [if_pos (any_objectOf.1 hany), member?_cons, member?_nil]
    rfl
  · rename_i hany
    rw [if_neg fun h => hany (any_objectOf.2 h), ite_self]
    rfl

/-! ## Tools -/

/-- The counts of a summary, and the columns they are made by. -/
def groupings : List (String × Column) :=
  [("by_severity", .severity), ("by_file", .file), ("by_code", .code)]

/-- **What the object of a tool says about a number of findings adds up**, in a table of some columns. -/
structure ToolTotals (cs : List Column) (o : Json) (n : ℕ) : Prop where
  /-- The number is given for the tool. -/
  count : o.at? ["issues_count"] = some (.nat n)
  /-- So many issues are listed. -/
  issues : ∃ objects, o.at? ["issues"] = some (.array objects) ∧ objects.length = n
  /-- The number is given in the summary. -/
  total : o.at? ["summary", "total_issues"] = some (.nat n)
  /-- The summary says whether there are any. -/
  any : o.at? ["summary", "has_issues"] = some (.bool (decide (0 < n)))
  /-- There are counts by a column if there are issues and the table has the column. -/
  grouped : ∀ g ∈ groupings, (o.at? ["summary", g.1]).isSome = true ↔ 0 < n ∧ g.2 ∈ cs
  /-- The counts come to the number. -/
  counts : ∀ g ∈ groupings, ∀ v, o.at? ["summary", g.1] = some v →
    ∃ counts, v = countsObject counts ∧ Tally counts n
  /-- It says whether the tool was skipped. -/
  skipped : ∃ b, o.at? ["skipped"] = some (.bool b)

/-- Whether the object of a tool says that it was skipped. -/
def saysSkipped (o : Json) : Bool :=
  (o.at? ["skipped"]).bind Json.bool? == some true

/-- **What a document says about its tools adds up**: to so many findings for each of them, in tables of some
columns. -/
structure Totals (columns : String → List Column) (doc : Json) (tools : List (String × Json))
    (ns : List ℕ) : Prop where
  /-- The tools stand under their names. -/
  listed : doc.at? ["results", "tools"] = some (.object tools)
  /-- No two of them have one name. -/
  names : (tools.map Prod.fst).Nodup
  /-- The object of each tool adds up. -/
  each : List.Forall₂ (fun e n => ToolTotals (columns e.1) e.2 n) tools ns
  /-- The tools are counted. -/
  toolCount : doc.at? ["results", "summary", "total_tools"] = some (.nat tools.length)
  /-- The findings are those of all tools. -/
  total : doc.at? ["results", "summary", "total_issues"] = some (.nat ns.sum)
  /-- The summary says whether there are any. -/
  any : doc.at? ["results", "summary", "has_issues"] = some (.bool (decide (0 < ns.sum)))
  /-- The tools that were skipped are counted. -/
  skipCount : doc.at? ["results", "summary", "skipped_tools"] =
    some (.nat (tools.countP fun e => saysSkipped e.2))

/-- The counts in the summary of findings. -/
theorem member?_summary {g : String × Column} (hg : g ∈ groupings) :
    (object (summary (fs.map (objectOf cs)))).member? g.1 =
      if 0 < fs.length ∧ g.2 ∈ cs then
        some (countsObject (countBy g.2.key (fs.map (objectOf cs))))
      else none := by
  have hsummary : ∀ k, k ≠ "total_issues" → k ≠ "has_issues" →
      (object (summary (fs.map (objectOf cs)))).member? k =
        (((object (countMember "by_severity" Column.severity.key (fs.map (objectOf cs)))).member? k).or
          ((object (countMember "by_file" Column.file.key (fs.map (objectOf cs)))).member? k)).or
            ((object (countMember "by_code" Column.code.key (fs.map (objectOf cs)))).member? k) := by
    intro k htotal hany
    rw [summary, member?_append, member?_append, member?_append, member?_cons, member?_cons,
      if_neg htotal.symm, if_neg hany.symm, member?_nil, Option.none_or]
    rfl
  simp only [groupings, List.mem_cons, List.not_mem_nil, or_false] at hg
  rcases hg with rfl | rfl | rfl
  · rw [hsummary _ (by decide) (by decide)]
    simp [member?_countMember]
  · rw [hsummary _ (by decide) (by decide)]
    simp [member?_countMember]
  · rw [hsummary _ (by decide) (by decide)]
    simp [member?_countMember]

end Document

namespace Report

open Document Json

variable {box : Toolbox} {stamp : String} {r : Report} {t : ToolResult}

/-- What the object of a result says at the keys of its table. -/
theorem member?_toolMembers {k : String} {ms : List (String × Json)}
    (hk : k = "summary" ∨ k = "issues") (tb : Table) :
    (object (toolMembers stamp tb ++ ms)).member? k = (object (toolMembers stamp tb)).member? k := by
  rw [member?_append, toolMembers]
  rcases hk with rfl | rfl <;> simp

/-- What it says at the other keys. -/
theorem member?_resultMembers {k : String} {tb : Table}
    (hk : k ≠ "metadata" ∧ k ≠ "summary" ∧ k ≠ "issues") :
    (object (toolMembers stamp tb ++ resultMembers t)).member? k =
      (object (resultMembers t)).member? k := by
  rw [member?_append, toolMembers]
  simp [hk.1.symm, hk.2.1.symm, hk.2.2.symm]

/-- The objects of the findings of a result. -/
def objectsOf (box : Toolbox) (t : ToolResult) : List (List (String × Json)) :=
  t.findings.map (objectOf (Table.withFixable (box.tableFor t.name).1))

theorem records_resultObject (box : Toolbox) (t : ToolResult) :
    records (.ofFindings (Table.withFixable (box.tableFor t.name).1) t.findings) = objectsOf box t :=
  records_ofFindings

theorem length_objectsOf (box : Toolbox) (t : ToolResult) : (objectsOf box t).length = t.count := by
  rw [objectsOf, List.length_map]
  rfl

/-- Its summary. -/
theorem member?_summary_resultObject (box : Toolbox) (stamp : String) (t : ToolResult) :
    (resultObject box stamp t).member? "summary" = some (.object (summary (objectsOf box t))) := by
  rw [resultObject, member?_toolMembers (Or.inl rfl), toolMembers, records_resultObject]
  simp

/-- The counts in its summary. -/
theorem at?_grouping {g : String × Column} (hg : g ∈ groupings) :
    (resultObject box stamp t).at? ["summary", g.1] =
      if 0 < t.count ∧ g.2 ∈ (box.tableFor t.name).1 then
        some (countsObject (countBy g.2.key (objectsOf box t)))
      else none := by
  have hcolumn : g.2 ∈ Table.withFixable (box.tableFor t.name).1 ↔ g.2 ∈ (box.tableFor t.name).1 := by
    rw [mem_withFixable_iff, or_iff_left]
    simp only [groupings, List.mem_cons, List.not_mem_nil, or_false] at hg
    rcases hg with rfl | rfl | rfl <;> decide
  rw [at?_cons, member?_summary_resultObject, Option.bind_some, at?_cons, objectsOf,
    member?_summary hg]
  simp only [hcolumn]
  exact Option.bind_fun_some _

theorem at?_skipped (box : Toolbox) (stamp : String) (t : ToolResult) :
    (resultObject box stamp t).at? ["skipped"] = some (.bool t.isSkipped) := by
  rw [at?_cons, resultObject, member?_resultMembers (by decide)]
  simp [resultMembers]

/-- **The object of a result adds up.** -/
theorem totals_resultObject (box : Toolbox) (stamp : String) (t : ToolResult) :
    ToolTotals (box.tableFor t.name).1 (resultObject box stamp t) t.count where
  count := by
    rw [at?_cons, resultObject, member?_resultMembers (by decide)]
    simp [resultMembers]
  issues := by
    refine ⟨(objectsOf box t).map .object, ?_, ?_⟩
    · rw [at?_cons, resultObject, member?_issues, records_resultObject]
      rfl
    · rw [List.length_map, length_objectsOf]
  total := by
    rw [at?_cons, member?_summary_resultObject]
    simp [summary, length_objectsOf]
  any := by
    have hany : (!(objectsOf box t).isEmpty) = decide (0 < t.count) := by
      rw [← length_objectsOf box t]
      cases objectsOf box t <;> rfl
    rw [at?_cons, member?_summary_resultObject, ← hany]
    simp [summary]
  grouped g hg := by
    rw [at?_grouping hg]
    split
    · rename_i h
      exact iff_of_true rfl h
    · rename_i h
      exact iff_of_false Bool.false_ne_true h
  counts g hg v hv := by
    rw [at?_grouping hg] at hv
    split at hv
    · have htally := tally_countBy g.2.key (objectsOf box t)
      rw [length_objectsOf] at htally
      exact ⟨_, (Option.some.inj hv).symm, htally⟩
    · cases hv
  skipped := ⟨t.isSkipped, at?_skipped box stamp t⟩

/-! ## Documents -/

theorem totalFindings_eq_sum (r : Report) :
    r.totalFindings = (r.results.map ToolResult.count).sum := by
  rw [totalFindings, List.sum, List.foldr_map]

/-- The objects of the results, each under the name of its tool. -/
def toolObjects (box : Toolbox) (stamp : String) (r : Report) : List (String × Json) :=
  r.results.map fun t => (t.name, resultObject box stamp t)

theorem map_fst_toolObjects (box : Toolbox) (stamp : String) (r : Report) :
    (toolObjects box stamp r).map Prod.fst = r.results.map ToolResult.name := by
  rw [toolObjects, List.map_map]
  rfl

/-- The tools that were skipped say so. -/
theorem countP_toolObjects (box : Toolbox) (stamp : String) (r : Report) :
    ((toolObjects box stamp r).countP fun e => saysSkipped e.2) = r.skippedTools := by
  rw [toolObjects, List.countP_map, skippedTools]
  refine List.countP_congr fun t _ => ?_
  rw [Function.comp_apply, saysSkipped, at?_skipped]
  cases t.isSkipped <;> simp [Json.bool?]

/-- **A document of tools with different names** is about these tools. -/
theorem document_eq (hnames : (r.results.map ToolResult.name).Nodup) (box : Toolbox) (stamp : String) :
    r.document box stamp = ofTools stamp [("action", .string r.action.name)]
      (toolObjects box stamp r) r.totalFindings r.skippedTools := by
  have hput : r.results.foldl (fun ms t => put ms t.name (resultObject box stamp t)) [] =
      toolObjects box stamp r := by
    have hkeys : ((toolObjects box stamp r).map Prod.fst).Nodup := by
      rwa [map_fst_toolObjects]
    have hputAll := putAll_of_nodup hkeys
    rw [putAll, toolObjects, List.foldl_map] at hputAll
    exact hputAll
  rw [document, hput]

/-- **It adds up.** -/
theorem totals_document (hnames : (r.results.map ToolResult.name).Nodup) (box : Toolbox)
    (stamp : String) :
    Totals (fun name => (box.tableFor name).1) (r.document box stamp) (toolObjects box stamp r)
      (r.results.map ToolResult.count) where
  listed := by
    rw [document_eq hnames]
    simp [ofTools]
  names := by
    rw [map_fst_toolObjects]
    exact hnames
  each := by
    rw [toolObjects, List.forall₂_map_left_iff, List.forall₂_map_right_iff, List.forall₂_same]
    exact fun t _ => totals_resultObject box stamp t
  toolCount := by
    rw [document_eq hnames]
    simp [ofTools]
  total := by
    rw [document_eq hnames, ← totalFindings_eq_sum]
    simp [ofTools]
  any := by
    rw [document_eq hnames, ← totalFindings_eq_sum]
    simp [ofTools]
  skipCount := by
    rw [document_eq hnames, countP_toolObjects]
    simp [ofTools]

end Report

open Document Execution Report

variable {σ : Type} {h : Host σ} {box : Toolbox} {req : Request} {settings : RunSettings}
variable {s s' : Session σ} {report : Report}

/-- **The document of a run adds up.** It lists each tool of the run once, and the number of findings that it
gives is the sum over the tools of the number given for each, of the issues listed, and of what the summary
of each counts; where there are counts by severity, file or code, they come to the same number, and they are
there exactly if the tool found something and its table has the column. -/
theorem document_adds_up (hbox : box.Built) (hrun : run h box req settings s = (.ok report, s'))
    (stamp : String) : ∃ tools ns,
      Totals (fun name => (box.tableFor name).1) (report.document box stamp) tools ns ∧
        tools.map Prod.fst = report.results.map ToolResult.name := by
  obtain ⟨plan, hplan, hnames⟩ := map_name_of_run hrun
  have hsettles : Plan.Settles box req plan := Plan.settles_of_ofRequest hbox hplan
  have hnodup : (report.results.map ToolResult.name).Nodup := hnames ▸ hsettles.nodup_names hbox
  exact ⟨_, _, totals_document hnodup box stamp, map_fst_toolObjects box stamp report⟩

/-- A tool that checks file by file and names the file and the line of what it finds, but no rule. -/
def lister : Tool where
  spec := { name := "lister", canCheck := true, priority := 1, filePatterns := ["*.py"] }
  adapter :=
    { read := fun output => .ok [{ file := "a.py", message := output, line := some 3 }]
      columns := Table.lineColumns
      checkCommand := fun _ => ["lister"]
      fixCommand := none }
  rank := 0

/-- A tool that gives way to it. -/
def meekLister : Tool :=
  ⟨{ name := "meek", canCheck := true, conflicts := ["Lister"] }, lister.adapter, 1⟩

/-- A host with two files, where the first check finds something and the second one takes too long. -/
def listedHost : Host ℕ where
  call := fun _ n => (if n = 0 then .completed false "blank" else .timedOut, n + 1)
  tree := fun _ => .dir [("a.py", .file ByteArray.empty false), ("b.py", .file ByteArray.empty false)]
  dir := Path.root

theorem built_listers : (⟨[lister, meekLister]⟩ : Toolbox).Built := by
  have hlister := Toolbox.Built.empty.concat lister.spec lister.adapter (by decide)
  exact hlister.concat meekLister.spec meekLister.adapter (by decide)

/-- Two findings of one tool, one of them for the file that took too long, and a tool that was skipped. -/
theorem document_adds_up_listed : (⟨[lister, meekLister]⟩ : Toolbox).Built ∧
    ∃ report s', run listedHost ⟨[lister, meekLister]⟩ { inputs := [Path.root] } {} ⟨0, []⟩ =
        (.ok report, s') ∧
      report.results.map (fun t => (t.name, t.count, t.isSkipped)) =
        [("lister", 2, false), ("meek", 0, true)] ∧
      ∃ tools ns, Totals (fun name => ((⟨[lister, meekLister]⟩ : Toolbox).tableFor name).1)
          (report.document ⟨[lister, meekLister]⟩ "") tools ns ∧
        tools.map Prod.fst = ["lister", "meek"] := by
  have hplan : Plan.ofRequest ⟨[lister, meekLister]⟩ { inputs := [Path.root] } =
      .ok ⟨[], ⟨[lister], [⟨meekLister, lister⟩]⟩⟩ :=
    Plan.ofRequest_of_select ["lister", "meek"] [lister, meekLister] rfl (List.cons_ne_nil _ _) rfl
      (.refl _) (by decide)
  have hfiles : discover (listedHost.tree 0) listedHost.dir {} [Path.root] lister.spec.filePatterns =
      .ok [.ofNames ["a.py"], .ofNames ["b.py"]] :=
    Discovery.discover_of_perm (by decide) rfl (by decide) (by decide)
  have hserve := @serve_of_passes _ listedHost lister {} ⟨0, []⟩ ⟨0, []⟩
    { inputs := [Path.root] } .empty _ rfl rfl hfiles
  have hrun := run_eq_ok_iff.2 ⟨_, _, hplan, rfl,
    mapM_cons_eq_ok_iff.2 ⟨_, _, [], hserve, rfl, rfl⟩, rfl⟩
  obtain ⟨tools, ns, htotals, hnames⟩ := document_adds_up built_listers hrun ""
  exact ⟨built_listers, _, _, hrun, by decide, tools, ns, htotals, hnames⟩

end Multilint
