import BasicWorkbench.Text

namespace BasicWorkbench

def texts (words : List String) : List Text := words.map String.toList

def keywords : List Text := texts [
  "If", "Then", "Else", "ElseIf", "EndIf", "While", "EndWhile", "For", "To", "Step", "EndFor",
  "Sub", "EndSub", "Goto", "And", "Or", "Not"]

structure LibraryObject where
  name : Text
  members : List Text
  deriving DecidableEq, Repr

def libraryObjects : List LibraryObject := [
  ⟨"Array", texts [
    "ContainsIndex", "ContainsValue", "GetAllIndices", "GetItemCount", "GetValue", "IsArray",
    "RemoveValue", "SetValue"]⟩,
  ⟨"Clock", texts [
    "Date", "Day", "ElapsedMilliseconds", "Hour", "Millisecond", "Minute", "Month", "Second",
    "Time", "TimeZone", "WeekDay", "Year"]⟩,
  ⟨"Controls", texts [
    "AddButton", "AddMultiLineTextBox", "AddTextBox", "ButtonClicked", "GetButtonCaption",
    "GetTextBoxText", "HideControl", "LastClickedButton", "Remove", "SetButtonCaption", "SetSize",
    "SetTextBoxText", "ShowControl"]⟩,
  ⟨"Desktop", texts [
    "Height", "Width"]⟩,
  ⟨"Dictionary", texts [
    "AddValue", "ContainsKey", "ContainsValue", "GetItemCount", "GetKeys", "GetValue",
    "RemoveValue"]⟩,
  ⟨"File", texts [
    "AppendContents", "CopyFile", "CreateDirectory", "DeleteDirectory", "DeleteFile",
    "GetDirectories", "GetFiles", "GetSettingsFilePath", "GetTemporaryFilePath", "InsertLine",
    "ReadContents", "ReadLine", "WriteContents", "WriteLine"]⟩,
  ⟨"Flickr", texts [
    "GetPictureOfMoment", "GetRandomPicture", "GetRandomPictureOfPlace"]⟩,
  ⟨"GraphicsWindow", texts [
    "BackgroundColor", "BrushColor", "CanResize", "Clear", "DrawBoundText", "DrawEllipse",
    "DrawImage", "DrawLine", "DrawRectangle", "DrawResizedImage", "DrawText", "DrawTriangle",
    "FillEllipse", "FillRectangle", "FillTriangle", "FontBold", "FontItalic", "FontName",
    "FontSize", "GetColorFromRGB", "GetLeft", "GetPixel", "GetRandomColor", "GetTop", "Height",
    "Hide", "KeyDown", "KeyUp", "LastKey", "Left", "MouseDown", "MouseMove", "MouseUp", "MouseX",
    "MouseY", "PenColor", "PenWidth", "SetPixel", "Show", "ShowMessage", "Title", "Top",
    "Width"]⟩,
  ⟨"ImageList", texts [
    "GetHeightOfImage", "GetWidthOfImage", "LoadImage"]⟩,
  ⟨"Math", texts [
    "Abs", "Ceiling", "Cos", "Floor", "GetDegrees", "GetRadians", "GetRandomNumber", "Max", "Min",
    "NaturalLog", "Pi", "Power", "Remainder", "Round", "Sin", "SquareRoot", "Tan"]⟩,
  ⟨"Mouse", texts [
    "ButtonDown", "ButtonUp", "HideCursor", "IsLeftButtonDown", "IsMiddleButtonDown",
    "IsRightButtonDown", "MouseX", "MouseY", "ShowCursor", "WheelDelta", "WheelDown", "WheelUp"]⟩,
  ⟨"Network", texts [
    "DownloadFile", "DownloadImage", "GetWebPageContents", "IsConnected"]⟩,
  ⟨"Program", texts [
    "Delay", "Directory", "End", "GetArgument", "Pause", "SetArgument"]⟩,
  ⟨"Shapes", texts [
    "AddEllipse", "AddImage", "AddLine", "AddRectangle", "AddText", "AddTriangle", "Animate",
    "GetLeft", "GetOpacity", "GetTop", "GetX", "GetY", "HideShape", "Move", "Remove", "Resize",
    "Rotate", "SetOpacity", "SetText", "ShowShape", "Zoom"]⟩,
  ⟨"Sound", texts [
    "Play", "PlayAndWait", "PlayBackgroundSound", "PlayBellRing", "PlayChime", "PlayClick",
    "PlayChimes", "PlayMusic", "PlayMusicAndWait", "PlaySystemSound", "StopBackgroundSound"]⟩,
  ⟨"Stack", texts [
    "GetCount", "PopValue", "PushValue"]⟩,
  ⟨"Text", texts [
    "Append", "ConvertToLowerCase", "ConvertToUpperCase", "EndsWith", "GetCharacter",
    "GetCharacterCode", "GetIndexOf", "GetLength", "GetSubText", "GetSubTextToEnd", "IsSubText",
    "StartsWith"]⟩,
  ⟨"TextWindow", texts [
    "BackgroundColor", "Clear", "CursorLeft", "CursorTop", "ForegroundColor", "Hide", "Pause",
    "PauseIfVisible", "PauseWithoutMessage", "Read", "ReadKey", "ReadNumber", "ReadLine", "Show",
    "Title", "Write", "WriteLine"]⟩,
  ⟨"Timer", texts [
    "Interval", "Pause", "Resume", "Tick"]⟩,
  ⟨"Turtle", texts [
    "Angle", "Distance", "Hide", "Move", "MoveTo", "PenDown", "PenUp", "Show", "Speed", "Turn",
    "TurnLeft", "TurnRight", "X", "Y"]⟩]

def settingNames : List Text :=
  ["BackgroundColor", "BrushColor", "Width", "Height", "Left", "Top", "Title"]

/-- Whether a member is read or assigned rather than called: a known setting, or a coordinate. -/
def isProperty (member : Text) : Bool :=
  settingNames.contains member || member.getLast? == some 'X' || member.getLast? == some 'Y'

end BasicWorkbench
