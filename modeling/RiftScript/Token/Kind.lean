/-
Token kinds.

The words that belong to the game come in four families: events that a champion reacts to,
actions it performs, queries about the game, and places on the map.
-/

namespace RiftScript

inductive GameEvent where
  | abilityCast | attack | death | healthBelow | manaBelow | enemyApproach | allyNearby
  | cooldownReady
deriving Repr, DecidableEq

inductive Action where
  | cast | useItem | attack | moveTo | placeWard | ping | recallHome | teleport
deriving Repr, DecidableEq

inductive Query where
  | enemyInRange | nearestEnemy | allyInRange | hasBuff | itemReady | cooldownReady | getHealth
  | getMana
deriving Repr, DecidableEq

inductive Place where
  | dragonPit | baronPit | topLane | midLane | botLane | triBush | river | base
deriving Repr, DecidableEq

inductive TokenKind where
  -- punctuation
  | leftParen | rightParen | leftBrace | rightBrace | comma | dot | semicolon | percent
  | plus | minus | star | slash
  | bang | bangEqual | equal | equalEqual | greater | greaterEqual | less | lessEqual
  -- names and literals
  | identifier | string | number
  -- declarations
  | champion | ability | item | buff
  -- the game
  | event (e : GameEvent)
  | action (a : Action)
  | query (q : Query)
  | place (p : Place)
  -- control flow
  | ifWord | elseWord | whileWord | forWord | doWord | endWord | combo | thenWord
  -- logic
  | andWord | orWord | notWord | trueWord | falseWord | nilWord
  -- the end of the script
  | eof
deriving Repr, DecidableEq

namespace GameEvent

def all : List GameEvent :=
  [abilityCast, attack, death, healthBelow, manaBelow, enemyApproach, allyNearby, cooldownReady]

/-- The word that names an event in a script. -/
def word : GameEvent → String
  | abilityCast => "onAbilityCast"
  | attack => "onAttack"
  | death => "onDeath"
  | healthBelow => "onHealthBelow"
  | manaBelow => "onManaBelow"
  | enemyApproach => "onEnemyApproach"
  | allyNearby => "onAllyNearby"
  | cooldownReady => "onCooldownReady"

def label : GameEvent → String
  | abilityCast => "ON_ABILITY_CAST"
  | attack => "ON_ATTACK"
  | death => "ON_DEATH"
  | healthBelow => "ON_HEALTH_BELOW"
  | manaBelow => "ON_MANA_BELOW"
  | enemyApproach => "ON_ENEMY_APPROACH"
  | allyNearby => "ON_ALLY_NEARBY"
  | cooldownReady => "ON_COOLDOWN_READY"

end GameEvent

namespace Action

def all : List Action :=
  [cast, useItem, attack, moveTo, placeWard, ping, recallHome, teleport]

/-- The word that names an action in a script. -/
def word : Action → String
  | cast => "cast"
  | useItem => "useItem"
  | attack => "attack"
  | moveTo => "moveTo"
  | placeWard => "placeWard"
  | ping => "ping"
  | recallHome => "recall"
  | teleport => "teleport"

def label : Action → String
  | cast => "CAST"
  | useItem => "USE_ITEM"
  | attack => "ATTACK"
  | moveTo => "MOVE_TO"
  | placeWard => "PLACE_WARD"
  | ping => "PING"
  | recallHome => "RECALL"
  | teleport => "TELEPORT"

end Action

namespace Query

def all : List Query :=
  [enemyInRange, nearestEnemy, allyInRange, hasBuff, itemReady, cooldownReady, getHealth, getMana]

/-- The word that names a query in a script. -/
def word : Query → String
  | enemyInRange => "enemyInRange"
  | nearestEnemy => "nearestEnemy"
  | allyInRange => "allyInRange"
  | hasBuff => "hasBuff"
  | itemReady => "itemReady"
  | cooldownReady => "cooldownReady"
  | getHealth => "getHealth"
  | getMana => "getMana"

def label : Query → String
  | enemyInRange => "ENEMY_IN_RANGE"
  | nearestEnemy => "NEAREST_ENEMY"
  | allyInRange => "ALLY_IN_RANGE"
  | hasBuff => "HAS_BUFF"
  | itemReady => "ITEM_READY"
  | cooldownReady => "COOLDOWN_READY"
  | getHealth => "GET_HEALTH"
  | getMana => "GET_MANA"

end Query

namespace Place

def all : List Place :=
  [dragonPit, baronPit, topLane, midLane, botLane, triBush, river, base]

/-- The word that names a place in a script. -/
def word : Place → String
  | dragonPit => "dragonPit"
  | baronPit => "baronPit"
  | topLane => "topLane"
  | midLane => "midLane"
  | botLane => "botLane"
  | triBush => "triBush"
  | river => "river"
  | base => "base"

def label : Place → String
  | dragonPit => "DRAGON_PIT"
  | baronPit => "BARON_PIT"
  | topLane => "TOP_LANE"
  | midLane => "MID_LANE"
  | botLane => "BOT_LANE"
  | triBush => "TRI_BUSH"
  | river => "RIVER"
  | base => "BASE"

end Place

namespace TokenKind

/-- The name of a kind in token listings. -/
def label : TokenKind → String
  | leftParen => "LEFT_PAREN"
  | rightParen => "RIGHT_PAREN"
  | leftBrace => "LEFT_BRACE"
  | rightBrace => "RIGHT_BRACE"
  | comma => "COMMA"
  | dot => "DOT"
  | semicolon => "SEMICOLON"
  | percent => "PERCENT"
  | plus => "PLUS"
  | minus => "MINUS"
  | star => "STAR"
  | slash => "SLASH"
  | bang => "BANG"
  | bangEqual => "BANG_EQUAL"
  | equal => "EQUAL"
  | equalEqual => "EQUAL_EQUAL"
  | greater => "GREATER"
  | greaterEqual => "GREATER_EQUAL"
  | less => "LESS"
  | lessEqual => "LESS_EQUAL"
  | identifier => "IDENTIFIER"
  | string => "STRING"
  | number => "NUMBER"
  | champion => "CHAMPION"
  | ability => "ABILITY"
  | item => "ITEM"
  | buff => "BUFF"
  | event e => e.label
  | action a => a.label
  | query q => q.label
  | place p => p.label
  | ifWord => "IF"
  | elseWord => "ELSE"
  | whileWord => "WHILE"
  | forWord => "FOR"
  | doWord => "DO"
  | endWord => "END"
  | combo => "COMBO"
  | thenWord => "THEN"
  | andWord => "AND"
  | orWord => "OR"
  | notWord => "NOT"
  | trueWord => "TRUE"
  | falseWord => "FALSE"
  | nilWord => "NIL"
  | eof => "EOF"

def all : List TokenKind :=
  [leftParen, rightParen, leftBrace, rightBrace, comma, dot, semicolon, percent, plus, minus,
    star, slash, bang, bangEqual, equal, equalEqual, greater, greaterEqual, less, lessEqual,
    identifier, string, number, champion, ability, item, buff]
  ++ GameEvent.all.map event ++ Action.all.map action ++ Query.all.map query
  ++ Place.all.map place
  ++ [ifWord, elseWord, whileWord, forWord, doWord, endWord, combo, thenWord, andWord, orWord,
    notWord, trueWord, falseWord, nilWord, eof]

/-- The kind that a listing calls `s`. -/
def ofLabel? (s : String) : Option TokenKind :=
  all.find? fun k => k.label == s

def isEvent : TokenKind → Bool
  | event _ => true
  | _ => false

def isAction : TokenKind → Bool
  | action _ => true
  | _ => false

def isQuery : TokenKind → Bool
  | query _ => true
  | _ => false

def isPlace : TokenKind → Bool
  | place _ => true
  | _ => false

/-- Actions, queries and places may stand where a name may. -/
def isGameWord : TokenKind → Bool
  | action _ | query _ | place _ => true
  | _ => false

/-- What may be named in an expression. -/
def isName (k : TokenKind) : Bool :=
  k == identifier || k.isGameWord

end TokenKind
end RiftScript
