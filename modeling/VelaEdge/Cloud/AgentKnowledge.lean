import Mathlib.Data.List.Infix
import VelaEdge.Base.Text

/-! The excerpts an agent is shown of a knowledge document: lines with a sensitive marker are left
out, the rest is cut into overlapping chunks, and the best of them are returned. -/
namespace VelaEdge.Cloud.AgentKnowledge

open Base List Text

def defaultKnowledgeLimit : Nat := 6
def maxKnowledgeLimit : Nat := 12
def chunkChars : Nat := 720
def chunkOverlapChars : Nat := 96

/-- The loop of `chunk_text` from a start on. -/
def chunksFrom (chars : List Char) (start : Nat) : List (List Char) :=
  if _h : start < chars.length then
    let stop := min (start + chunkChars) chars.length
    let chunk := (chars.drop start).take (stop - start)
    if _h : stop = chars.length then [chunk]
    else chunk :: chunksFrom chars (stop - chunkOverlapChars)
  else []
termination_by chars.length - start
decreasing_by
  unfold chunkOverlapChars stop chunkChars at *
  omega

def chunkText (content : List Char) : List (List Char) := chunksFrom content 0

/-- A line ends before a line feed, or a carriage return and a line feed; the last may lack it. -/
def lines (content : List Char) : List (List Char) :=
  let pieces := splitChars '\n' content
  pieces.dropLast.map (fun line => if line.getLast? = some '\r' then line.dropLast else line) ++
    (pieces.getLast?.filter (· ≠ [])).toList

def sensitiveMarkers : List String :=
  ["password","secret","api_key","apikey","access_token","private key","private_key",
    "authorization:","bearer ","client_secret"]

/-- What `str::to_lowercase` takes from the Unicode tables: the mapping beyond ASCII, and the classes
that tell where a word ends. -/
structure CaseTables where
  toLower : Char → List Char
  isCased : Char → Bool
  isCaseIgnorable : Char → Bool

variable (tables : CaseTables)

def caseIgnorableThenCased (chars : List Char) : Bool :=
  (chars.dropWhile tables.isCaseIgnorable).head?.any tables.isCased

-- the characters before are the last one first
def mapUppercaseSigma (before after : List Char) : Char :=
  if caseIgnorableThenCased tables before && !caseIgnorableThenCased tables after then 'ς' else 'σ'

def lowerFrom (before : List Char) : List Char → List Char
  | [] => []
  | c :: after =>
    (if c.val < 128 then [c.toLower]
    else if c = 'Σ' then [mapUppercaseSigma tables before after]
    else tables.toLower c) ++ lowerFrom (c :: before) after

def toLowercase (text : List Char) : List Char := lowerFrom tables [] text

def marked (line : List Char) : Bool :=
  sensitiveMarkers.any fun marker => decide (marker.toList <:+: toLowercase tables line)

/-- A marker stands in the line in some letter case. -/
def CarriesMarker (line : List Char) : Prop :=
  ∃ marker ∈ sensitiveMarkers, ∃ piece, piece <:+: line ∧ piece.map Char.toLower = marker.toList

def safeKnowledgeText (content : List Char) : List Char :=
  intercalate ['\n'] ((lines content).filter fun line => !marked tables line)

structure SearchDocument where
  documentId : String
  content : List Char

structure AgentKnowledgeHit (S : Type) where
  documentId : String
  chunkId : String
  excerpt : List Char
  score : S

variable {S : Type} [LinearOrder S] [Zero S] (relevanceScore : SearchDocument → List Char → S)

def documentHits (document : SearchDocument) : List (AgentKnowledgeHit S) :=
  (chunkText (safeKnowledgeText tables document.content)).zipIdx.filterMap
    fun (excerpt, index) =>
      let score := relevanceScore document excerpt
      if 0 < score then
        some ⟨document.documentId,s!"{document.documentId}#chunk-{padded 3 (index + 1)}",excerpt,
          score⟩
      else none

def before (left right : AgentKnowledgeHit S) : Bool :=
  right.score < left.score || right.score = left.score && (left.documentId < right.documentId ||
    left.documentId = right.documentId && left.chunkId ≤ right.chunkId)

def searchAgentKnowledge (terms : List String) (corpus : List SearchDocument) (limit : Option Nat) :
    List (AgentKnowledgeHit S) :=
  if terms = [] then []
  else ((corpus.flatMap (documentHits tables relevanceScore)).mergeSort before).take
    (min (max (limit.getD defaultKnowledgeLimit) 1) maxKnowledgeLimit)

/-- The chunks without what they repeat of the one before. -/
def withoutOverlap (chunks : List (List Char)) : List Char :=
  (chunks.take 1).flatten ++ (chunks.tail.map (drop chunkOverlapChars)).flatten

section Chunks

variable (chars : List Char) {start stop : Nat}

theorem piece_append (h : start ≤ stop) :
    (chars.drop start).take (stop - start) ++ chars.drop stop = chars.drop start := by
  have hd : chars.drop stop = (chars.drop start).drop (stop - start) := by
    rw [drop_drop,Nat.add_sub_cancel' h]
  rw [hd,take_append_drop]

private theorem flatten_chunksFrom (h : start < chars.length) :
    ((chunksFrom chars start).map (drop chunkOverlapChars)).flatten =
      chars.drop (start + chunkOverlapChars) := by
  fun_induction chunksFrom chars start with
  | case1 start _ stop chunk hs =>
    have hc : chunk = chars.drop start := take_of_length_le (by simp [hs])
    simp [hc]
  | case2 start _ stop chunk hs ih =>
    have hl : chunkOverlapChars ≤ chunk.length ∧ chunkOverlapChars ≤ stop ∧ start ≤ stop := by
      simp only [chunk,length_take,length_drop]
      unfold stop chunkChars chunkOverlapChars at *
      omega
    rw [map_cons,flatten_cons,ih (by unfold chunkOverlapChars; omega),Nat.sub_add_cancel hl.2.1,
      ← drop_append_of_le_length hl.1,piece_append chars hl.2.2,drop_drop]
  | case3 start hn => exact absurd h hn

theorem withoutOverlap_chunkText : withoutOverlap (chunkText chars) = chars := by
  unfold chunkText
  fun_cases chunksFrom chars 0 with
  | case1 _ stop chunk hs => simp [withoutOverlap,chunk,hs]
  | case2 hl stop chunk hs =>
    have hn : chunkOverlapChars ≤ stop ∧ stop - chunkOverlapChars < chars.length := by
      unfold stop chunkChars chunkOverlapChars at *
      omega
    simp only [withoutOverlap,take_succ_cons,take_zero,tail_cons,flatten_cons,flatten_nil,append_nil]
    rw [flatten_chunksFrom chars hn.2,Nat.sub_add_cancel hn.1]
    exact piece_append chars (Nat.zero_le stop)
  | case3 hn => simp [length_eq_zero_iff.mp (Nat.eq_zero_of_not_pos hn),withoutOverlap]

theorem chunksFrom_pieces (start : Nat) :
    ∀ chunk ∈ chunksFrom chars start, chunk.length ≤ chunkChars ∧ chunk <:+: chars := by
  have hpiece (start stop : Nat) (h : stop ≤ start + chunkChars) :
      ((chars.drop start).take (stop - start)).length ≤ chunkChars ∧
        (chars.drop start).take (stop - start) <:+: chars := by
    have ht := take_prefix (stop - start) (chars.drop start)
    refine ⟨?_,ht.isInfix.trans (drop_suffix _ _).isInfix⟩
    rw [length_take]
    omega
  fun_induction chunksFrom chars start with
  | case1 start _ stop chunk hs =>
    exact forall_mem_singleton.mpr (hpiece start stop (Nat.min_le_left _ _))
  | case2 start _ stop chunk hs ih =>
    exact forall_mem_cons.mpr ⟨hpiece start stop (Nat.min_le_left _ _),ih⟩
  | case3 => simp

end Chunks

private theorem infix_split {piece text rest : List Char} (hn : c ∉ piece)
    (h : piece <:+: text ++ c :: rest) : piece <:+: text ∨ piece <:+: rest := by
  obtain ⟨start,tail,h⟩ := h
  rcases append_eq_append_iff.mp h with ⟨more,rfl,-⟩ | ⟨more,hs,hr⟩
  · exact .inl ⟨start,more,rfl⟩
  cases more with
  | nil =>
    rw [append_nil] at hs
    exact .inl ⟨start,[],by rw [append_nil,hs]⟩
  | cons first more =>
    obtain ⟨rfl,rfl⟩ := cons.inj hr
    rcases append_eq_append_iff.mp hs with ⟨cut,rfl,hc⟩ | ⟨cut,rfl,hc⟩
    · exact absurd (hc ▸ mem_append_right cut mem_cons_self) hn
    · cases cut with
      | nil =>
        obtain rfl : c :: more = piece := hc
        exact absurd mem_cons_self hn
      | cons first cut =>
        obtain rfl : more = cut ++ piece := (cons.inj hc).2
        exact .inr ⟨cut,tail,rfl⟩

/-- A piece of joined lines that has no line feed lies in one of them. -/
theorem infix_join {piece : List Char} (hp : piece ≠ []) (hn : '\n' ∉ piece)
    (h : piece <:+: intercalate ['\n'] texts) : ∃ text ∈ texts, piece <:+: text := by
  induction texts with
  | nil => simp_all [intercalate]
  | cons text rest ih =>
    cases rest with
    | nil => exact ⟨text,mem_cons_self,by simpa [intercalate] using h⟩
    | cons next rest =>
      have he : intercalate ['\n'] (text :: next :: rest) =
          text ++ '\n' :: intercalate ['\n'] (next :: rest) := by simp [intercalate]
      rw [he] at h
      rcases infix_split hn h with h | h
      · exact ⟨text,mem_cons_self,h⟩
      · obtain ⟨found,hf,hi⟩ := ih h
        exact ⟨found,mem_cons_of_mem _ hf,hi⟩

private theorem splitChars_whole (text : List Char) : ∀ piece ∈ splitChars separator text,
    separator ∉ piece := by
  fun_induction splitChars separator text with
  | case1 => simp
  | case2 rest ih => simpa using ih
  | case3 c rest hc he ih => simpa [he] using Ne.symm hc
  | case4 c rest hc piece pieces he ih =>
    rw [he] at ih
    simpa [Ne.symm hc] using ih

theorem lines_whole (h : line ∈ lines content) : '\n' ∉ line := by
  have hs := @splitChars_whole '\n' content
  rcases mem_append.mp h with h | h
  · obtain ⟨piece,hp,rfl⟩ := mem_map.mp h
    have hw := hs piece (dropLast_subset _ hp)
    split
    · exact fun hn => hw (dropLast_subset _ hn)
    · exact hw
  · rw [Option.mem_toList] at h
    exact hs line (mem_of_getLast? (Option.mem_filter_iff.mp h).1)

section Lowercase

def foldSigma (c : Char) : Char := if c = 'ς' then 'σ' else c

/-- The lower-case form of a character up to the two forms of sigma, which its context decides. -/
def lowerFolded (c : Char) : List Char :=
  (if c.val < 128 then [c.toLower] else if c = 'Σ' then ['σ'] else tables.toLower c).map foldSigma

theorem map_foldSigma_lowerFrom (before text : List Char) :
    (lowerFrom tables before text).map foldSigma = text.flatMap (lowerFolded tables) := by
  induction text generalizing before with
  | nil => rfl
  | cons c after ih =>
    rw [lowerFrom,map_append,ih,flatMap_cons]
    congr 1
    unfold lowerFolded
    split
    · rfl
    · split
      · unfold mapUppercaseSigma
        split <;> rfl
      · rfl

private theorem infix_map_foldSigma {piece text : List Char} (hs : 'σ' ∉ piece) (hf : 'ς' ∉ piece) :
    piece <:+: text.map foldSigma ↔ piece <:+: text := by
  constructor
  · rintro ⟨start,tail,h⟩
    obtain ⟨rest,last,rfl,hr,rfl⟩ := map_eq_append_iff.mp h.symm
    obtain ⟨first,middle,rfl,rfl,rfl⟩ := map_eq_append_iff.mp hr
    have hm : middle.map foldSigma = middle := by
      conv_rhs => rw [← map_id middle]
      apply map_congr_left
      intro c hc
      refine if_neg fun he : c = 'ς' => hs (mem_map.mpr ⟨c,hc,?_⟩)
      rw [he]
      rfl
    exact ⟨first,last,by rw [hm]⟩
  · intro h
    have hp : piece.map foldSigma = piece := by
      conv_rhs => rw [← map_id piece]
      apply map_congr_left
      intro c hc
      exact if_neg fun he : c = 'ς' => hf (he ▸ hc)
    exact hp ▸ h.map foldSigma

theorem marked_iff {line : List Char} : marked tables line = true ↔
    ∃ marker ∈ sensitiveMarkers, marker.toList <:+: line.flatMap (lowerFolded tables) := by
  simp only [marked,any_eq_true,decide_eq_true_eq]
  apply exists_congr
  intro marker
  apply and_congr_right
  intro hm
  have hn : ∀ marker ∈ sensitiveMarkers, 'σ' ∉ marker.toList ∧ 'ς' ∉ marker.toList := by decide
  rw [toLowercase,← map_foldSigma_lowerFrom tables [],
    infix_map_foldSigma (hn marker hm).1 (hn marker hm).2]

theorem marked_of_piece {line text : List Char} (hm : marked tables line = true)
    (h : line <:+: text) : marked tables text = true := by
  rw [marked_iff] at *
  obtain ⟨marker,hk,hm⟩ := hm
  exact ⟨marker,hk,hm.trans (h.flatMap _)⟩

private theorem lowerFolded_of_ascii {c : Char} (h : c.toLower.val < 128) (hf : c.toLower ≠ 'ς') :
    lowerFolded tables c = [c.toLower] := by
  have hc : c.val < 128 := by
    unfold Char.toLower at h
    split at h
    · next hu => exact UInt32.lt_of_le_of_lt hu.2 (by decide)
    · exact h
  simp [lowerFolded,hc,foldSigma,hf]

theorem marked_of_carriesMarker {line : List Char} (h : CarriesMarker line) :
    marked tables line = true := by
  obtain ⟨marker,hk,piece,hp,he⟩ := h
  have ha : sensitiveMarkers.all (·.toList.all fun c => c.val < 128 ∧ c ≠ 'ς') = true := by decide
  have hl : piece.flatMap (lowerFolded tables) = marker.toList := by
    rw [← he,← flatMap_singleton' (piece.map Char.toLower),flatMap_map]
    apply flatMap_congr
    intro c hc
    have hm := of_decide_eq_true (all_eq_true.mp (all_eq_true.mp ha marker hk) c.toLower
      (he ▸ mem_map_of_mem hc))
    exact lowerFolded_of_ascii tables hm.1 hm.2
  rw [marked_iff]
  exact ⟨marker,hk,hl ▸ hp.flatMap _⟩

end Lowercase

private theorem not_infix_of_marked {line excerpt : List Char} (hl : line ∈ lines content)
    (hm : marked tables line = true)
    (he : excerpt <:+: safeKnowledgeText tables content) : ¬ line <:+: excerpt := by
  intro h
  have hne : line ≠ [] := by
    rintro rfl
    have he : marked tables [] = false := rfl
    simp [he] at hm
  obtain ⟨text,ht,hi⟩ := infix_join hne (lines_whole hl) (h.trans he)
  rw [mem_filter,marked_of_piece tables hm hi] at ht
  exact absurd ht.2 (by decide)

private theorem mem_documentHits {document : SearchDocument} {hit : AgentKnowledgeHit S}
    (h : hit ∈ documentHits tables relevanceScore document) :
    hit.excerpt ∈ chunkText (safeKnowledgeText tables document.content) := by
  obtain ⟨⟨excerpt,index⟩,hm,hs⟩ := mem_filterMap.mp h
  dsimp only at hs
  split at hs
  · cases hs
    exact (mem_zipIdx' hm).2 ▸ getElem_mem _
  · cases hs

/-- Chunks cover a text and keep to their size. An excerpt of a search is a piece of what is left of
its document without the marked lines, among them all with a marker in any letter case. -/
theorem knowledge_search_safe (terms : List String) (corpus : List SearchDocument)
    (limit : Option Nat) :
    (∀ text, withoutOverlap (chunkText text) = text ∧
      ∀ chunk ∈ chunkText text, chunk.length ≤ chunkChars) ∧
    ∀ hit ∈ searchAgentKnowledge tables relevanceScore terms corpus limit,
      ∃ document ∈ corpus, hit.excerpt <:+: safeKnowledgeText tables document.content ∧
        ∀ line ∈ lines document.content, (CarriesMarker line → marked tables line = true) ∧
          (marked tables line = true → ¬ line <:+: hit.excerpt) := by
  refine ⟨fun text => ⟨withoutOverlap_chunkText text,fun chunk hc =>
    (chunksFrom_pieces text 0 chunk hc).1⟩,?_⟩
  intro hit hh
  unfold searchAgentKnowledge at hh
  split at hh
  · cases hh
  obtain ⟨document,hd,hm⟩ := mem_flatMap.mp (mem_mergeSort.mp (mem_of_mem_take hh))
  have hi := (chunksFrom_pieces _ 0 _ (mem_documentHits _ _ hm)).2
  exact ⟨document,hd,hi,fun line hl => ⟨marked_of_carriesMarker _,
    fun hk => not_infix_of_marked _ hl hk hi⟩⟩

end VelaEdge.Cloud.AgentKnowledge
