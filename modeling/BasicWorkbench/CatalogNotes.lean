import BasicWorkbench.OrderedMaps

namespace BasicWorkbench

def keywordNotes : OrderedMap Text := [
  ("If", "Starts a conditional statement. Format: If [condition] Then"),
  ("Then", "Used with If to execute code when condition is true"),
  ("Else", "Used with If to provide alternative code when condition is false"),
  ("ElseIf", "Used with If to check additional conditions"),
  ("EndIf", "Ends an If statement block"),
  ("While", "Starts a while loop. Format: While [condition]"),
  ("EndWhile", "Ends a while loop"),
  ("For", "Starts a for loop. Format: For [variable] = [start] To [end] [Step [increment]]"),
  ("To", "Used with For to specify the upper bound"),
  ("Step", "Used with For to specify the increment value"),
  ("EndFor", "Ends a for loop"),
  ("Sub", "Defines a subroutine. Format: Sub [name]"),
  ("EndSub", "Ends a subroutine definition"),
  ("Goto", "Jumps to a label in the code"),
  ("And", "Logical AND operator for combining conditions"),
  ("Or", "Logical OR operator for combining conditions")]

def objectNotes : OrderedMap Text := [
  ("GraphicsWindow", "Provides methods for creating and manipulating graphics"),
  ("TextWindow", "Provides methods for console input and output"),
  ("Math", "Provides mathematical functions and operations"),
  ("Array", "Provides methods to work with arrays"),
  ("Program", "Provides program control functions"),
  ("Clock", "Provides access to date and time information"),
  ("Shapes", "Provides methods to create and manipulate shapes"),
  ("File", "Provides file system operations"),
  ("Text", "Provides methods for text manipulation and processing"),
  ("Mouse", "Provides access to mouse input and cursor control"),
  ("Network", "Provides methods for network operations"),
  ("Sound", "Provides methods for playing sounds and music"),
  ("Turtle", "Provides methods for turtle graphics"),
  ("Timer", "Provides timer functionality"),
  ("Controls", "Provides methods for creating user interface controls"),
  ("Stack", "Provides methods for stack operations"),
  ("Dictionary", "Provides methods for key-value pair collections"),
  ("ImageList", "Provides methods for working with images"),
  ("Desktop", "Provides information about the desktop"),
  ("Flickr", "Provides access to Flickr images")]

def textWindowNotes : OrderedMap Text := [
  ("Clear", "Clears the text window. Usage: TextWindow.Clear()"),
  ("Pause", "Waits for the user to press a key. Usage: TextWindow.Pause()"),
  ("Read", "Reads a line of text from the console. Usage: var = TextWindow.Read()"),
  ("ReadNumber", "Reads a number from the console. Usage: num = TextWindow.ReadNumber()"),
  ("Title", "Sets or gets the title of the text window. Usage: TextWindow.Title = \"title\""),
  ("Write", "Writes text without a new line. Usage: TextWindow.Write(text)"),
  ("WriteLine", "Writes text with a new line. Usage: TextWindow.WriteLine(text)")]

def graphicsWindowNotes : OrderedMap Text := [
  ("BackgroundColor",
    "Sets or gets the background color. Usage: GraphicsWindow.BackgroundColor = \"color\""),
  ("BrushColor",
    "Sets or gets the brush color used for filling shapes. Usage: GraphicsWindow.BrushColor = \"color\""),
  ("Clear", "Clears the graphics window. Usage: GraphicsWindow.Clear()"),
  ("DrawEllipse", "Draws an ellipse. Usage: GraphicsWindow.DrawEllipse(x, y, width, height)"),
  ("DrawLine", "Draws a line between two points. Usage: GraphicsWindow.DrawLine(x1, y1, x2, y2)"),
  ("DrawRectangle", "Draws a rectangle. Usage: GraphicsWindow.DrawRectangle(x, y, width, height)"),
  ("DrawText", "Draws text at specified position. Usage: GraphicsWindow.DrawText(x, y, text)"),
  ("FillEllipse", "Draws a filled ellipse. Usage: GraphicsWindow.FillEllipse(x, y, width, height)"),
  ("FillRectangle",
    "Draws a filled rectangle. Usage: GraphicsWindow.FillRectangle(x, y, width, height)"),
  ("Height", "Sets or gets the height of the window. Usage: GraphicsWindow.Height = height"),
  ("PenColor", "Sets or gets the pen color. Usage: GraphicsWindow.PenColor = \"color\""),
  ("ShowMessage", "Shows a message box. Usage: GraphicsWindow.ShowMessage(text, title)"),
  ("Width", "Sets or gets the width of the window. Usage: GraphicsWindow.Width = width")]

def mathNotes : OrderedMap Text := [
  ("Abs", "Returns the absolute value of a number. Usage: result = Math.Abs(number)"),
  ("GetRandomNumber",
    "Returns a random number up to a maximum value. Usage: number = Math.GetRandomNumber(max)"),
  ("Max", "Returns the larger of two numbers. Usage: max = Math.Max(number1, number2)"),
  ("Min", "Returns the smaller of two numbers. Usage: min = Math.Min(number1, number2)"),
  ("Pi", "Returns the value of Pi. Usage: pi = Math.Pi"),
  ("Power", "Returns a number raised to a power. Usage: result = Math.Power(number, power)"),
  ("Remainder",
    "Returns the remainder of a division. Usage: remainder = Math.Remainder(dividend, divisor)"),
  ("Round", "Rounds a number to the nearest integer. Usage: result = Math.Round(number)"),
  ("SquareRoot", "Returns the square root of a number. Usage: result = Math.SquareRoot(number)")]

def arrayNotes : OrderedMap Text := [
  ("ContainsIndex",
    "Checks if an array contains a specific index. Usage: result = Array.ContainsIndex(array, index)"),
  ("GetItemCount",
    "Gets the number of items in an array. Usage: count = Array.GetItemCount(array)"),
  ("GetValue", "Gets a value from an array. Usage: value = Array.GetValue(array, index)"),
  ("SetValue", "Sets a value in an array. Usage: Array.SetValue(array, index, value)")]

def textNotes : OrderedMap Text := [
  ("Append", "Appends text to another text. Usage: result = Text.Append(text1, text2)"),
  ("GetLength", "Gets the length of text. Usage: length = Text.GetLength(text)"),
  ("GetSubText", "Gets a portion of text. Usage: result = Text.GetSubText(text, start, length)")]

def memberNotes : OrderedMap (OrderedMap Text) := [
  ("TextWindow", textWindowNotes), ("GraphicsWindow", graphicsWindowNotes), ("Math", mathNotes),
  ("Array", arrayNotes), ("Text", textNotes)]

def keywordNote (keyword : Text) : Text :=
  (keywordNotes.find? keyword).getD (keyword ++ " is a Small Basic keyword")

def objectNote (object : Text) : Text :=
  (objectNotes.find? object).getD (object ++ " is a Small Basic object")

def memberNote (object member : Text) : Text :=
  (((memberNotes.find? object).bind (·.find? member))).getD
    (object ++ "." ++ member ++ " is a Small Basic method or property")

end BasicWorkbench
