import Floorplan.Reply.Basic

set_option autoImplicit false

/-! # Replies in words

The wording of every reply. Two stars mark bold text, which the screen takes out. -/

namespace Floorplan

/-- The greeting of a new conversation. -/
def welcomeText : String :=
  "🏢 **Welcome to the SiteWise Building Assistant!**

I can help you manage your buildings with these commands:

**🏗️ Create Buildings:**
• \"Create Building A with 5 floors\"
• \"Create default building\"
• \"Create Office Complex with 3 floors, 2 restrooms, 1 corridor per floor\"

**➕ Add Components:**
• \"Add 2 floors\"
• \"Add 3 restrooms in floor 5\"
• \"Add 2 corridors to floor 3\"
• \"Add 1 floor and 2 restrooms\"

**✏️ Rename:**
• \"Change building name to Hospital\"
• \"Rename floor 1 to Lobby\"
• \"Rename restroom 1 in floor 2 to Main Restroom\"
• \"Rename corridor 2 on floor 3 to East Wing\"

**✨ Bulk Rename:**
• \"Rename all floors to [Ground, First, Second]\"
• \"Rename all restrooms in floor 1 to [Men, Women]\"
• \"Rename all corridors in floor 2 to [North Wing, South Wing]\"

**🔄 Manage Buildings:**
• \"Switch to Building A\"
• \"List all buildings\"

**💬 Help:** \"Show available commands\""

/-- The list of everything that can be asked. -/
def commandsText : String :=
  "📋 **Available Commands Reference**

**🏗️ CREATE BUILDINGS:**
• \"Create Building A with 5 floors\"
• \"Create default building\" (5 floors)
• \"Create Hospital with 3 floors, 2 restrooms, 1 corridor\"
• \"Build building called Annex\"

**➕ ADD COMPONENTS:**
• \"Add 2 floors\"
• \"Add 3 restrooms in floor 5\"
• \"Add 2 corridors to floor 3\"
• \"Add 2 restrooms\" (adds to every floor)
• \"Add 1 floor and 2 restrooms\" (several at once)

**✏️ RENAME SINGLE ITEM:**
• \"Change building name to Medical Center\"
• \"Call the building HQ\"
• \"Rename floor 1 to Lobby\" or \"Floor 1: Lobby\"
• \"Rename restroom 1 in floor 2 to Main Restroom\"
• \"Change corridor 2 on floor 3 to East Wing\"

**✨ BULK RENAME:**
• \"Rename all floors to [Ground, First, Second, Third]\"
• \"Rename all restrooms in floor 1 to [Men, Women, Accessible]\"
• \"Rename all corridors in floor 2 to [North Wing, South Wing]\"

**🔄 MANAGE BUILDINGS:**
• \"List all buildings\"
• \"Switch to Building Name\" or \"Use Hospital\"

**🗑️ REMOVE:**
• \"Remove 2 floors\" (at least one floor always stays)

**💡 TIPS:**
• Use [brackets] with comma-separated names for bulk renaming
• Leave a slot empty (\"[Ground, , Second]\") to keep a name
• All changes are saved automatically"

/-- The help for text that is not understood while there are no buildings. -/
def firstStepsText : String :=
  "❓ I couldn't understand your building requirements. Please specify:

**📋 Create Your First Building:**
• \"Create Building A with 5 floors\"
• \"Create default building\"
• \"Create Office Complex with 3 floors, 2 restrooms, 1 corridor per floor\"

**💡 Tips:**
• You can create multiple buildings and switch between them
• Use \"Show available commands\" to see all options
• Buildings are automatically saved"

/-- The help for text that is not understood while there are buildings, below its first line. -/
def quickCommandsText : String :=
  "**📋 Quick Commands:**

**🏗️ Building Management:**
• \"Create Building Name with X floors\"
• \"Switch to Building Name\"
• \"List all buildings\"

**➕ Add Components:**
• \"Add 2 more floors\"
• \"Add 1 restroom to floor 3\"
• \"Add 2 corridors\"

**✏️ Rename:**
• \"Change building name to New Name\"
• \"Rename Floor 1 to Lobby\"
• \"Rename all floors to [Ground, First, Second]\"

**💬 Need Help?**
• \"Show available commands\" - See all commands"

/-- The text in double quotes. -/
def inQuotes (s : String) : String := "\"" ++ s ++ "\""

/-- The texts numbered from one, as `render` puts them. -/
def numberedFrom {α : Type} (render : Nat → α → String) (first : Nat) : List α → String
  | [] => ""
  | a :: rest => render first a ++ numberedFrom render (first + 1) rest

/-- A line of the list of buildings. -/
def ListedBuilding.line (n : Nat) (b : ListedBuilding) : String :=
  toString n ++ ". **" ++ b.name ++ "** (" ++ toString b.floors ++ " floors)" ++
    (if b.active then " ← *Active*" else "") ++ "\n"

namespace Reply

/-- The reply in words. -/
def message : Reply → String
  | welcome => welcomeText
  | commands buildings active =>
    commandsText ++ "\n\n**Current Status:**\n• Buildings: " ++ toString buildings ++
      "\n• Active: " ++ active.getD "None"
  | buildingList [] =>
    "No buildings have been created yet. You can create one by saying " ++
     "\"Create default building\" or \"Create Building A with 5 floors\"."
  | buildingList listed =>
    "**Available Buildings:**\n\n" ++ numberedFrom ListedBuilding.line 1 listed ++
      "\n**Commands:**\n• \"Switch to Building Name\"\n" ++
       "• \"Create New Building with X floors\"\n" ++
       "• \"Change building name to New Name\""
  | switched name floors =>
    "✅ Switched to " ++ inQuotes name ++ " (" ++ toString floors ++
      " floors). You can now edit this building or upload maps to its components."
  | buildingNotFound query available =>
    let names :=
      if available.isEmpty then "None" else String.intercalate ", " (available.map inQuotes)
    "❌ Building " ++ inQuotes query ++ " not found.\n\n**Available buildings:** " ++ names ++
      "\n\nTip: Use \"List all buildings\" to see all available buildings."
  | floorsRenamed count floors =>
    "✅ Successfully renamed " ++ counted count "floor" ++ "!\n" ++
      String.join (floors.map fun (number, name) => "\nFloor " ++ toString number ++ ": " ++ name)
  | componentsRenamed kind floor count names =>
    "✅ Successfully renamed " ++ counted count kind.noun ++ " on Floor " ++ toString floor ++ "!\n" ++
      numberedFrom (fun n name => "\n" ++ toString n ++ ". " ++ name) 1 names
  | componentRenamed kind floor index name =>
    "✅ Perfect! " ++ kind.label ++ " " ++ toString index ++ " on Floor " ++ toString floor ++
      " has been renamed to " ++ inQuotes name ++ "."
  | floorRenamed floor name =>
    "✅ Perfect! Floor " ++ toString floor ++ " has been renamed to " ++ inQuotes name ++ "."
  | buildingRenamed name =>
    "✅ Perfect! I've renamed your building to " ++ inQuotes name ++ "."
  | floorMissing floor building available =>
    "❌ Floor " ++ toString floor ++ " doesn't exist in " ++ building ++ ". Available floors: " ++
      String.intercalate ", " (available.map fun n => toString n)
  | componentMissing kind index floor available =>
    "❌ " ++ kind.label ++ " " ++ toString index ++ " doesn't exist on Floor " ++ toString floor ++
      ". Available " ++ kind.plural ++ ": 1-" ++ toString available
  | nameTaken name floors =>
    "⚠️ A building named " ++ inQuotes name ++ " already exists!\n\n**Options:**\n" ++
     "• Switch to it: " ++ inQuotes ("Switch to " ++ name) ++ "\n" ++
     "• Create with a different name: " ++
      inQuotes ("Create " ++ name ++ " 2 with " ++ toString floors ++ " floors") ++ "\n" ++
     "• List all buildings: \"List all buildings\""
  | created name floors restrooms corridors lifts totalBuildings =>
    "✅ Perfect! I've created " ++ inQuotes name ++ " with:\n\n" ++
      "• " ++ toString floors ++ " floors\n" ++
      "• " ++ toString restrooms ++ " restrooms per floor\n" ++
      "• " ++ toString corridors ++ " corridors per floor\n" ++
      "• " ++ toString lifts ++ " lifts per corridor\n\n" ++
      "📊 **Total buildings in collection:** " ++ toString totalBuildings ++ "\n" ++
      "🏗️ **Active building:** " ++ name ++ "\n\n" ++
       "You can now:\n" ++
       "• Select components to attach 2D maps\n" ++
       "• \"List all buildings\" to see all buildings\n" ++
       "• \"Switch to [building name]\" to work on another building\n" ++
       "• \"Add floors/restrooms/corridors\" to modify this building"
  | noActiveBuilding =>
    "❌ No building is currently active. Please create a building first or switch " ++
     "to an existing one.\n\n**Commands:**\n• \"Create default building\"\n" ++
     "• \"List all buildings\""
  | floorsAdded count building totalFloors =>
    "✅ Great! I've added " ++ counted count "floor" ++ " to " ++ inQuotes building ++
      ". You now have " ++ toString totalFloors ++ " floors total."
  | componentsAdded kind count floor =>
    "✅ Added " ++ counted count kind.noun ++
      match floor with
      | some n => " to Floor " ++ toString n ++ "."
      | none => " to each floor."
  | unknownFloor floor =>
    "❌ Floor " ++ toString floor ++ " doesn't exist. Please specify a valid floor number."
  | multipleAdded changes building totalFloors =>
    let added := if changes.isEmpty then "nothing" else String.intercalate ", " changes
    "✅ Great! I've added " ++ added ++ " to " ++ inQuotes building ++ ". You now have " ++
      toString totalFloors ++ " floors total."
  | floorsRemoved count totalFloors =>
    "✅ I've removed " ++ counted count "floor" ++ " from your building. You now have " ++
      toString totalFloors ++ " floors total."
  | lastFloor =>
    "❌ I can't remove floors as you need at least one floor in your building."
  | tooMany requested limit =>
    "❌ " ++ toString requested ++ " is more than I can add at once. Please ask for at most " ++
      toString limit ++ " at a time."
  | notUnderstood false _ => firstStepsText
  | notUnderstood true current =>
    "❓ I couldn't understand your request. " ++
      (match current with
        | some (name, floors) =>
          "**Current Building:** " ++ name ++ " (" ++ toString floors ++ " floors)"
        | none => "**No building selected**") ++
      "\n\n" ++ quickCommandsText
  | configurationUpdated =>
    "✅ Building configuration updated successfully! You can continue to modify " ++
     "components or upload 2D maps."

end Reply

end Floorplan
